import AuthGate.Http.Message

namespace AuthGate

/-- The bytes of a message up to the first empty line, and those behind it. -/
def splitHead? : List UInt8 → Option (List UInt8 × List UInt8)
  | 13 :: 10 :: 13 :: 10 :: body => some ([], body)
  | [] => none
  | byte :: bytes => (splitHead? bytes).map fun (head, body) => (byte :: head, body)

/-- The characters of bytes, one for each. -/
def charsOfBytes (bytes : List UInt8) : List Char := bytes.map fun b => Char.ofNat b.toNat

/-- The lines of the head of a message. -/
def headLines : List Char → List (List Char)
  | [] => [[]]
  | '\r' :: '\n' :: cs => [] :: headLines cs
  | c :: cs => match headLines cs with
    | [] => [[c]]
    | line :: lines => (c :: line) :: lines

/-- A header: its name, a colon, and its value without the blanks around it. -/
def headerOfLine? (line : List Char) : Option (String × String) :=
  let isSpace (c : Char) : Bool := c = ' ' || c = '\t'
  match line.dropWhile (· ≠ ':') with
  | [] => none
  | _ :: value =>
    let value := ((value.dropWhile isSpace).reverse.dropWhile isSpace).reverse
    some (String.ofList (line.takeWhile (· ≠ ':')), String.ofList value)

/-- The number of bytes that a message announces for its body. -/
def announcedLength (headers : List (String × String)) : Nat :=
  ((headers.find? fun (name, _) => name.map Char.toLower = "content-length").bind
    fun (_, value) => value.toNat?).getD 0

/-- What can be said about the bytes of a request so far. -/
inductive RequestBytes where
  | incomplete
  | malformed
  | complete (request : HttpRequest)

namespace HttpRequest

/-- Reads a request: its first line, its headers, and as many bytes of its body as
they announce. -/
def ofBytes (bytes : List UInt8) : RequestBytes :=
  match splitHead? bytes with
  | none => .incomplete
  | some (head, rest) =>
    match headLines (charsOfBytes head) with
    | [] => .malformed
    | first :: lines =>
      match (String.ofList first).splitOn " ", lines.mapM headerOfLine? with
      | [method, target, _], some headers =>
        let length := announcedLength headers
        if rest.length < length then .incomplete
        else .complete ⟨method, target, headers, rest.take length⟩
      | _, _ => .malformed

end HttpRequest

namespace HttpResponse

/-- The bytes of a response. The connection ends with it. -/
def toBytes (r : HttpResponse) : List UInt8 :=
  let body := utf8 r.body
  let headers := r.headers
    ++ [("content-length", toString body.length), ("connection", "close")]
  utf8 (s!"HTTP/1.1 {r.status} \r\n"
    ++ String.join (headers.map fun (name, value) => s!"{name}: {value}\r\n") ++ "\r\n") ++ body

end HttpResponse

end AuthGate
