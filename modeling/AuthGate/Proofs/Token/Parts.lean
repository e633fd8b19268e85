import AuthGate.Token.Codec

namespace AuthGate

namespace RawToken

theorem toList_text (t : RawToken) :
    t.text.toList = t.header.toList ++ '.' :: (t.payload.toList ++ '.' :: t.signature.toList) := by
  simp [text, signed]

/-- A token is taken apart into the parts that it was put together from. -/
theorem ofText_text {t : RawToken} (hheader : '.' ∉ t.header.toList)
    (hpayload : '.' ∉ t.payload.toList) (hsignature : '.' ∉ t.signature.toList)
    (hstart : t.header ≠ "") (hend : t.signature ≠ "") : ofText t.text = .ok t := by
  have hstart' : t.header.toList ≠ [] := by simpa using hstart
  have hend' : t.signature.toList ≠ [] := by simpa using hend
  unfold ofText
  rw [toList_text, pieces_append_cons hheader, pieces_append_cons hpayload,
    pieces_of_not_mem hsignature]
  dsimp only
  rw [if_neg (not_or.2 ⟨hstart', hend'⟩), String.ofList_toList, String.ofList_toList,
    String.ofList_toList]

end RawToken

end AuthGate
