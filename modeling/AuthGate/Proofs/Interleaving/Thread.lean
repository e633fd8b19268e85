import AuthGate.Time.Instant
import Mathlib.Logic.Relation

namespace AuthGate

theorem Instant.le_max (a b : Instant) : a ≤ max a b := by
  change a ≤ if a ≤ b then b else a
  split
  · assumption
  · exact Int.le_refl _

/-- A computation over a shared state as the sequence of its atomic steps. A step
reads the clock, or it changes the shared state and sees what that was before. -/
inductive Thread (σ α : Type) where
  | done (answer : α)
  | clock (next : Instant → Thread σ α)
  | update (change : σ → σ) (next : σ → Thread σ α)

namespace Thread

variable {σ α β : Type}

/-- The steps of a thread, and then those that follow from its answer. -/
protected def bind : Thread σ α → (α → Thread σ β) → Thread σ β
  | done answer, rest => rest answer
  | clock next, rest => clock fun now => (next now).bind rest
  | update change next, rest => update change fun shared => (next shared).bind rest

instance : Monad (Thread σ) where
  pure := done
  bind := Thread.bind

@[simp] theorem pure_eq (answer : α) : (pure answer : Thread σ α) = done answer := rfl

@[simp] theorem done_bind (answer : α) (rest : α → Thread σ β) :
    (done answer : Thread σ α) >>= rest = rest answer := rfl

@[simp] theorem clock_bind (next : Instant → Thread σ α) (rest : α → Thread σ β) :
    clock next >>= rest = clock fun now => next now >>= rest := rfl

@[simp] theorem update_bind (change : σ → σ) (next : σ → Thread σ α) (rest : α → Thread σ β) :
    update change next >>= rest = update change fun shared => next shared >>= rest := rfl

/-- Reads the clock. -/
def now : Thread σ Instant := clock done

/-- Reads the shared state in one step, without a change. -/
def look (view : σ → α) : Thread σ α := update id fun shared => done (view shared)

/-- Changes the shared state in one step. -/
def modify (change : σ → σ) : Thread σ Unit := update change fun _ => done ()

/-- What a thread makes of the shared state, and its answer, if nobody else is at
work and the clock stands still. -/
def alone (now : Instant) : Thread σ α → σ → σ × α
  | done answer, shared => (shared, answer)
  | clock next, shared => (next now).alone now shared
  | update change next, shared => (next shared).alone now (change shared)

theorem alone_bind (thread : Thread σ α) (rest : α → Thread σ β) (now : Instant) (shared : σ) :
    (thread >>= rest).alone now shared =
      (rest (thread.alone now shared).2).alone now (thread.alone now shared).1 := by
  induction thread generalizing shared with
  | done answer => rfl
  | clock next ih => exact ih now shared
  | update change next ih => exact ih shared (change shared)

/-- The answer of a thread that has no steps left. -/
def answer? : Thread σ α → Option α
  | done answer => some answer
  | _ => none

/-- What others may do between two steps of a thread: the clock moves on, or the
shared state changes as far as the promise allows it at that time. -/
inductive Interferes (promise : Instant → σ → σ → Prop) : Instant × σ → Instant × σ → Prop
  | tick {now later : Instant} {shared : σ} (h : now ≤ later) :
    Interferes promise (now, shared) (later, shared)
  | change {now : Instant} {before after : σ} (h : promise now before after) :
    Interferes promise (now, before) (now, after)

/-- What others may do in any number of turns, none included. -/
abbrev Reaches (promise : Instant → σ → σ → Prop) : Instant × σ → Instant × σ → Prop :=
  Relation.ReflTransGen (Interferes promise)

/-- Every change that a thread makes keeps the promise, if the clock shows no
earlier time than `since` when it goes on. -/
def Keeps (promise : Instant → σ → σ → Prop) : Thread σ α → Instant → Prop
  | done _, _ => True
  | clock next, since => ∀ now, since ≤ now → (next now).Keeps promise now
  | update change next, since =>
    (∀ now shared, since ≤ now → promise now shared (change shared)) ∧
      ∀ shared, (next shared).Keeps promise since

/-- Whatever others do between the steps of a thread: as long as it has steps left,
`pending` holds of the times of those that have been taken, and once it has come
to its end, `post` holds of them and of the answer, then and later. -/
def Ensures (promise : Instant → σ → σ → Prop) (pending : List Instant → Prop)
    (post : List Instant → α → Instant × σ → Prop) :
    Thread σ α → List Instant → Instant × σ → Prop
  | done answer, times, here => ∀ there, Reaches promise here there → post times answer there
  | clock next, times, here => pending times ∧ ∀ there, Reaches promise here there →
    (next there.1).Ensures promise pending post (times ++ [there.1]) there
  | update change next, times, here => pending times ∧ ∀ there, Reaches promise here there →
    (next there.2).Ensures promise pending post (times ++ [there.1]) (there.1, change there.2)

variable {promise : Instant → σ → σ → Prop}

theorem le_of_reaches {here there : Instant × σ} (h : Reaches promise here there) :
    here.1 ≤ there.1 := by
  induction h with
  | refl => exact Int.le_refl _
  | tail _ hlast ih =>
    refine Int.le_trans ih ?_
    cases hlast with
    | tick hlater => exact hlater
    | change _ => exact Int.le_refl _

/-- What every interference leaves true stays true however many there are. -/
theorem of_reaches {held : Instant × σ → Prop}
    (hstable : ∀ here there, Interferes promise here there → held here → held there)
    {here there : Instant × σ} (h : Reaches promise here there) (hheld : held here) :
    held there := by
  induction h with
  | refl => exact hheld
  | tail _ hlast ih => exact hstable _ _ hlast ih

theorem keeps_of_le {thread : Thread σ α} {since now : Instant}
    (hkeeps : thread.Keeps promise since) (hle : since ≤ now) : thread.Keeps promise now := by
  induction thread with
  | done answer => trivial
  | clock next _ => exact fun later hlater => hkeeps later (Int.le_trans hle hlater)
  | update change next ih =>
    obtain ⟨hchange, hnext⟩ := hkeeps
    exact ⟨fun later shared hlater => hchange later shared (Int.le_trans hle hlater),
      fun shared => ih shared (hnext shared)⟩

theorem keeps_bind {thread : Thread σ α} {rest : α → Thread σ β} {since : Instant}
    (hthread : thread.Keeps promise since)
    (hrest : ∀ answer now, since ≤ now → (rest answer).Keeps promise now) :
    (thread >>= rest).Keeps promise since := by
  induction thread generalizing since with
  | done answer => exact hrest answer since (Int.le_refl _)
  | clock next ih =>
    intro now hnow
    exact ih now (hthread now hnow) fun answer later hlater =>
      hrest answer later (Int.le_trans hnow hlater)
  | update change next ih => exact ⟨hthread.1, fun shared => ih shared (hthread.2 shared) hrest⟩

theorem keeps_now {rest : Instant → Thread σ α} {since : Instant}
    (hrest : ∀ now, since ≤ now → (rest now).Keeps promise now) :
    (now >>= rest).Keeps promise since := hrest

theorem keeps_look {view : σ → α} {rest : α → Thread σ β} {since : Instant}
    (hsame : ∀ now shared, promise now shared shared)
    (hrest : ∀ shared, (rest (view shared)).Keeps promise since) :
    (look view >>= rest).Keeps promise since :=
  ⟨fun now shared _ => hsame now shared, hrest⟩

theorem keeps_modify {change : σ → σ} {since : Instant}
    (hchange : ∀ now shared, since ≤ now → promise now shared (change shared)) :
    (modify change).Keeps promise since := ⟨hchange, fun _ => trivial⟩

variable {pending : List Instant → Prop} {post : List Instant → α → Instant × σ → Prop}

theorem ensures_of_reaches {thread : Thread σ α} {times : List Instant} {here there : Instant × σ}
    (hensures : thread.Ensures promise pending post times here) (h : Reaches promise here there) :
    thread.Ensures promise pending post times there := by
  cases thread with
  | done answer => exact fun last hlast => hensures last (h.trans hlast)
  | clock next => exact ⟨hensures.1, fun last hlast => hensures.2 last (h.trans hlast)⟩
  | update change next => exact ⟨hensures.1, fun last hlast => hensures.2 last (h.trans hlast)⟩

/-- A sequence of two threads: the second one starts from what the first has
ensured. -/
theorem ensures_bind {thread : Thread σ α} {rest : α → Thread σ β} {times : List Instant}
    {here : Instant × σ} {last : List Instant → β → Instant × σ → Prop}
    (hthread : thread.Ensures promise pending post times here)
    (hrest : ∀ times answer there, post times answer there →
      (rest answer).Ensures promise pending last times there) :
    (thread >>= rest).Ensures promise pending last times here := by
  induction thread generalizing times here with
  | done answer => exact hrest times answer here (hthread here .refl)
  | clock next ih => exact ⟨hthread.1, fun there h => ih there.1 (hthread.2 there h)⟩
  | update change next ih => exact ⟨hthread.1, fun there h => ih there.2 (hthread.2 there h)⟩

theorem ensures_now {rest : Instant → Thread σ α} {times : List Instant} {here : Instant × σ}
    (hpending : pending times)
    (hrest : ∀ there, Reaches promise here there →
      (rest there.1).Ensures promise pending post (times ++ [there.1]) there) :
    (now >>= rest).Ensures promise pending post times here := ⟨hpending, hrest⟩

theorem ensures_look {view : σ → β} {rest : β → Thread σ α} {times : List Instant}
    {here : Instant × σ} (hpending : pending times)
    (hrest : ∀ there, Reaches promise here there →
      (rest (view there.2)).Ensures promise pending post (times ++ [there.1]) there) :
    (look view >>= rest).Ensures promise pending post times here := ⟨hpending, hrest⟩

theorem ensures_modify {change : σ → σ} {rest : Unit → Thread σ α} {times : List Instant}
    {here : Instant × σ} (hpending : pending times)
    (hrest : ∀ there, Reaches promise here there →
      (rest ()).Ensures promise pending post (times ++ [there.1]) (there.1, change there.2)) :
    (modify change >>= rest).Ensures promise pending post times here := ⟨hpending, hrest⟩

theorem post_of_answer? {thread : Thread σ α} {times : List Instant} {here : Instant × σ}
    {answer : α} (hensures : thread.Ensures promise pending post times here)
    (hanswer : thread.answer? = some answer) : post times answer here := by
  cases thread with
  | done given =>
    obtain rfl := Option.some.inj hanswer
    exact hensures here .refl
  | clock next => cases hanswer
  | update change next => cases hanswer

theorem pending_of_answer? {thread : Thread σ α} {times : List Instant} {here : Instant × σ}
    (hensures : thread.Ensures promise pending post times here)
    (hanswer : thread.answer? = none) : pending times := by
  cases thread with
  | done given => cases hanswer
  | clock next => exact hensures.1
  | update change next => exact hensures.1

end Thread

/-- A request somebody has made: the readings of the clock at the steps that have
been taken for it, and what is left to do. -/
structure Call (ρ σ α : Type) where
  request : ρ
  times : List Instant
  thread : Thread σ α

/-- A clock, a state, and all the calls that have ever been begun, in the order of
their beginnings. -/
structure World (ρ σ α : Type) where
  now : Instant
  shared : σ
  calls : List (Call ρ σ α)

/-- What happens next in a world: the clock comes to a reading, a request is made, or the
call at an index takes a step. -/
inductive Move (ρ : Type) where
  | tick (reading : Instant)
  | begin (request : ρ)
  | advance (index : Nat)

namespace Call

variable {ρ σ α : Type}

/-- The next step of a call. A finished one has none. -/
def advance (call : Call ρ σ α) (now : Instant) (shared : σ) : σ × Call ρ σ α :=
  match call.thread with
  | .done _ => (shared, call)
  | .clock next => (shared, { call with times := call.times ++ [now], thread := next now })
  | .update change next =>
    (change shared, { call with times := call.times ++ [now], thread := next shared })

theorem request_advance (call : Call ρ σ α) (now : Instant) (shared : σ) :
    (call.advance now shared).2.request = call.request := by
  unfold advance
  split <;> rfl

variable {promise : Instant → σ → σ → Prop}

theorem keeps_advance {call : Call ρ σ α} {now : Instant}
    (hkeeps : call.thread.Keeps promise now) (shared : σ) :
    (call.advance now shared).2.thread.Keeps promise now := by
  unfold advance
  split
  · exact hkeeps
  · next next hthread =>
    rw [hthread] at hkeeps
    exact hkeeps now (Int.le_refl _)
  · next change next hthread =>
    rw [hthread] at hkeeps
    exact hkeeps.2 shared

theorem reaches_advance {call : Call ρ σ α} {now : Instant}
    (hkeeps : call.thread.Keeps promise now) (shared : σ) :
    Thread.Reaches promise (now, shared) (now, (call.advance now shared).1) := by
  unfold advance
  split
  · exact .refl
  · exact .refl
  · next change next hthread =>
    rw [hthread] at hkeeps
    exact .single (.change (hkeeps.1 now shared (Int.le_refl _)))

theorem ensures_advance {call : Call ρ σ α} {now : Instant} {shared : σ}
    {pending : List Instant → Prop}
    {post : List Instant → α → Instant × σ → Prop}
    (hensures : call.thread.Ensures promise pending post call.times (now, shared)) :
    (call.advance now shared).2.thread.Ensures promise pending post
      (call.advance now shared).2.times (now, (call.advance now shared).1) := by
  unfold advance
  split
  · exact hensures
  · next next hthread =>
    rw [hthread] at hensures
    exact hensures.2 (now, shared) .refl
  · next change next hthread =>
    rw [hthread] at hensures
    exact hensures.2 (now, shared) .refl

end Call

namespace World

variable {ρ σ α : Type} (program : ρ → Thread σ α)

/-- A world in which nothing has been begun. -/
def idle (now : Instant) (shared : σ) : World ρ σ α := ⟨now, shared, []⟩

/-- What a thread can see of a world. -/
def here (w : World ρ σ α) : Instant × σ := (w.now, w.shared)

/-- What one move makes of the world. The clock never goes back. -/
def step (w : World ρ σ α) : Move ρ → World ρ σ α
  | .tick reading => { w with now := max w.now reading }
  | .begin request => { w with calls := w.calls ++ [⟨request, [], program request⟩] }
  | .advance index =>
    match w.calls[index]? with
    | none => w
    | some call =>
      let (shared, call) := call.advance w.now w.shared
      { w with shared, calls := w.calls.set index call }

/-- What an interleaving makes of the world. -/
def run (w : World ρ σ α) (moves : List (Move ρ)) : World ρ σ α := moves.foldl (step program) w

/-- A call of a request has been begun and has come to an answer. -/
def Answered (w : World ρ σ α) (request : ρ) (answer : α) : Prop :=
  ∃ call ∈ w.calls, call.request = request ∧ call.thread.answer? = some answer

variable {program} {promise : Instant → σ → σ → Prop} {w : World ρ σ α}

theorem step_advance_of_none {index : Nat} (h : w.calls[index]? = none) :
    w.step program (.advance index) = w := by
  unfold step
  dsimp only
  rw [h]

theorem step_advance_of_some {index : Nat} {call : Call ρ σ α} (h : w.calls[index]? = some call) :
    w.step program (.advance index) =
      ⟨w.now, (call.advance w.now w.shared).1,
        w.calls.set index (call.advance w.now w.shared).2⟩ := by
  unfold step
  dsimp only
  rw [h]

/-- All that is still to be done for the calls begun so far keeps the promise. -/
def Keeps (promise : Instant → σ → σ → Prop) (w : World ρ σ α) : Prop :=
  ∀ call ∈ w.calls, call.thread.Keeps promise w.now

theorem keeps_idle {now : Instant} {shared : σ} :
    (idle now shared : World ρ σ α).Keeps promise :=
  fun _ hmem => absurd hmem List.not_mem_nil

theorem reaches_step (hkeeps : w.Keeps promise) (move : Move ρ) :
    Thread.Reaches promise w.here (w.step program move).here := by
  cases move with
  | tick reading => exact .single (.tick (w.now.le_max reading))
  | begin request => exact .refl
  | advance index =>
    cases hcall : w.calls[index]? with
    | none =>
      rw [step_advance_of_none hcall]
    | some call =>
      rw [step_advance_of_some hcall]
      exact Call.reaches_advance (hkeeps call (List.mem_of_getElem? hcall)) w.shared

theorem keeps_step (hprogram : ∀ request since, (program request).Keeps promise since)
    (hkeeps : w.Keeps promise) (move : Move ρ) : (w.step program move).Keeps promise := by
  cases move with
  | tick reading =>
    exact fun call hmem => Thread.keeps_of_le (hkeeps call hmem) (w.now.le_max reading)
  | begin request =>
    intro call hmem
    rcases List.mem_append.1 hmem with hold | hnew
    · exact hkeeps call hold
    · obtain rfl := List.mem_singleton.1 hnew
      exact hprogram request w.now
  | advance index =>
    cases hadvanced : w.calls[index]? with
    | none =>
      rw [step_advance_of_none hadvanced]
      exact hkeeps
    | some advanced =>
      rw [step_advance_of_some hadvanced]
      intro call hmem
      rcases List.mem_or_eq_of_mem_set hmem with hold | rfl
      · exact hkeeps call hold
      · exact Call.keeps_advance (hkeeps advanced (List.mem_of_getElem? hadvanced)) w.shared

variable {pending : List Instant → Prop} {post : List Instant → α → Instant × σ → Prop}
  {request : ρ} {first : Nat}

/-- All the calls of a request from the one with number `first` on, and any that
is begun now, ensure what is asked of them. -/
structure Secures (program : ρ → Thread σ α) (promise : Instant → σ → σ → Prop)
    (pending : List Instant → Prop) (post : List Instant → α → Instant × σ → Prop)
    (request : ρ) (first : Nat) (w : World ρ σ α) : Prop where
  keeps : w.Keeps promise
  fresh : (program request).Ensures promise pending post [] w.here
  begun : ∀ (index : Nat) (call : Call ρ σ α), first ≤ index → w.calls[index]? = some call →
    call.request = request → call.thread.Ensures promise pending post call.times w.here

theorem secures_step (hprogram : ∀ request since, (program request).Keeps promise since)
    (h : w.Secures program promise pending post request first) (move : Move ρ) :
    (w.step program move).Secures program promise pending post request first := by
  have hreaches : Thread.Reaches promise w.here (w.step program move).here :=
    reaches_step h.keeps move
  refine ⟨keeps_step hprogram h.keeps move, Thread.ensures_of_reaches h.fresh hreaches, ?_⟩
  intro index call hfirst hcall hrequest
  -- a call that the move does not touch has only met an interference
  have hother : w.calls[index]? = some call →
      call.thread.Ensures promise pending post call.times (w.step program move).here :=
    fun hsame => Thread.ensures_of_reaches (h.begun index call hfirst hsame hrequest) hreaches
  cases move with
  | tick reading => exact hother hcall
  | begin made =>
    by_cases hold : index < w.calls.length
    · have hsame : (w.calls ++ [⟨made, [], program made⟩])[index]? = w.calls[index]? :=
        List.getElem?_append_left hold
      exact hother (hsame.symm.trans hcall)
    · have hnew : call ∈ [(⟨made, [], program made⟩ : Call ρ σ α)] := by
        have happend : (w.calls ++ [⟨made, [], program made⟩])[index]? = some call := hcall
        rw [List.getElem?_append_right (Nat.not_lt.1 hold)] at happend
        exact List.mem_of_getElem? happend
      obtain rfl := List.mem_singleton.1 hnew
      obtain rfl : made = request := hrequest
      exact h.fresh
  | advance advanced =>
    cases hbefore : w.calls[advanced]? with
    | none =>
      rw [step_advance_of_none hbefore] at hcall
      exact hother hcall
    | some before =>
      rw [step_advance_of_some hbefore] at hcall hother ⊢
      by_cases hindex : advanced = index
      · subst hindex
        obtain ⟨hlength, -⟩ := List.getElem?_eq_some_iff.1 hbefore
        rw [List.getElem?_set_self hlength] at hcall
        obtain rfl := Option.some.inj hcall
        rw [Call.request_advance] at hrequest
        exact Call.ensures_advance (h.begun _ before hfirst hbefore hrequest)
      · rw [List.getElem?_set_ne hindex] at hcall
        exact hother hcall

theorem secures_run (hprogram : ∀ request since, (program request).Keeps promise since)
    (h : w.Secures program promise pending post request first) (moves : List (Move ρ)) :
    (w.run program moves).Secures program promise pending post request first := by
  induction moves generalizing w with
  | nil => exact h
  | cons move moves ih => exact ih (secures_step hprogram h move)

theorem keeps_run (hprogram : ∀ request since, (program request).Keeps promise since)
    (h : w.Keeps promise) (moves : List (Move ρ)) : (w.run program moves).Keeps promise := by
  induction moves generalizing w with
  | nil => exact h
  | cons move moves ih => exact ih (keeps_step hprogram h move)

/-- What a request ensures when nothing of it has been done is what every call of
it ensures that is begun from then on, in whatever order the steps of all calls
are taken. -/
theorem ensures_of_begun (hprogram : ∀ request since, (program request).Keeps promise since)
    (hkeeps : w.Keeps promise) (hfresh : (program request).Ensures promise pending post [] w.here)
    {moves : List (Move ρ)} {call : Call ρ σ α}
    (hcall : call ∈ (w.run program moves).calls.drop w.calls.length)
    (hrequest : call.request = request) :
    call.thread.Ensures promise pending post call.times (w.run program moves).here := by
  have hstart : w.Secures program promise pending post request w.calls.length := by
    refine ⟨hkeeps, hfresh, fun index call hfirst hcall _ => ?_⟩
    rw [List.getElem?_eq_none hfirst] at hcall
    cases hcall
  obtain ⟨offset, hoffset⟩ := List.mem_iff_getElem?.1 hcall
  rw [List.getElem?_drop] at hoffset
  exact (secures_run hprogram hstart moves).begun _ call (Nat.le_add_right _ offset) hoffset hrequest

/-- An answer that has been given in a run that starts with nothing begun is the
right one, and at the end of the run it still is. -/
theorem post_of_answered (hprogram : ∀ request since, (program request).Keeps promise since)
    {now : Instant} {shared : σ}
    (hfresh : (program request).Ensures promise pending post [] (now, shared))
    {moves : List (Move ρ)} {answer : α}
    (hanswered : ((idle now shared).run program moves).Answered request answer) :
    ∃ times, post times answer ((idle now shared).run program moves).here := by
  obtain ⟨call, hmem, hrequest, hanswer⟩ := hanswered
  have hensures := ensures_of_begun hprogram keeps_idle hfresh hmem hrequest
  exact ⟨call.times, Thread.post_of_answer? hensures hanswer⟩

end World

end AuthGate
