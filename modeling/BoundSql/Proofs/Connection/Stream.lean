import BoundSql.Proofs.Connection.RoundTrip

/-!
# Streams of pages

A stream of pages asks for one page with every pull, and ends behind the first answer that is an
error or has no rows; a stream of rows is one of pages of one row. `AsksForPages` says what one pull
does, and `AsksForPages.pulls_eq` what some pulls give and ask: the items of the answers through the
one that ends the stream, and the requests for these answers, one for every pull.

## Implementation notes

The answer to a request may depend on all that was asked before. `answersTo` lists the answers to
requests that are asked one after another, and `throughFirst` those of them that a stream sees.
-/

namespace BoundSql

/-! ## What a stream sees -/

/-- The answers to requests asked one after another, behind others asked before. -/
def answersTo (answer : Answering) :
    (asked : List Request) → List Request → List (Except Error (List Row))
  | _, [] => []
  | asked, request :: rest => answer asked request :: answersTo answer (asked ++ [request]) rest

theorem length_answersTo (answer : Answering) (asked requests : List Request) :
    (answersTo answer asked requests).length = requests.length := by
  induction requests generalizing asked with
  | nil => rfl
  | cons request rest ih => simp [answersTo, ih]

theorem answersTo_append (answer : Answering) (asked first second : List Request) :
    answersTo answer asked (first ++ second) =
      answersTo answer asked first ++ answersTo answer (asked ++ first) second := by
  induction first generalizing asked with
  | nil => simp [answersTo]
  | cons request rest ih => simp [answersTo, ih]

/-- Answers that do not depend on what was asked before. -/
theorem answersTo_map {ι : Type} {answer : Answering} {request : ι → Request}
    {given : ι → Except Error (List Row)} {indices : List ι}
    (h : ∀ i ∈ indices, ∀ asked, answer asked (request i) = given i) (asked : List Request) :
    answersTo answer asked (indices.map request) = indices.map given := by
  induction indices generalizing asked with
  | nil => rfl
  | cons i rest ih =>
    simp only [List.map_cons, answersTo, h i (by simp)]
    rw [ih fun j hj => h j (by simp [hj])]

/-- The items up to and including the first that is the last. -/
def throughFirst {α : Type} (isLast : α → Bool) (items : List α) : List α :=
  items.take (items.findIdx isLast + 1)

theorem throughFirst_cons {α : Type} (isLast : α → Bool) (a : α) (rest : List α) :
    throughFirst isLast (a :: rest) = a :: if isLast a then [] else throughFirst isLast rest := by
  cases h : isLast a <;> simp [throughFirst, List.findIdx_cons, h]

theorem throughFirst_append_cons {α : Type} {isLast : α → Bool} {items : List α} {a : α}
    (h : ∀ i ∈ items, isLast i = false) (ha : isLast a = true) (rest : List α) :
    throughFirst isLast (items ++ a :: rest) = items ++ [a] := by
  induction items with
  | nil => simp [throughFirst_cons, ha]
  | cons i items ih =>
    have hi : isLast i = false := h i (by simp)
    rw [List.cons_append, throughFirst_cons, ih fun j hj => h j (by simp [hj])]
    simp [hi]

/-- The answers behind which a stream ends: errors, and no rows. -/
def endsStream : Except Error (List Row) → Bool
  | .error _ => true
  | .ok rows => rows.isEmpty

/-- The item of a stream of rows that an answer gives: the error, or the first of its rows. -/
def rowItem? : Except Error (List Row) → Option (Except Error Row)
  | .error e => some (.error e)
  | .ok rows => rows.head?.map .ok

/-! ## Runs of pulls -/

/-- The requests for the first `n` pages of `size` rows. -/
def Builder.pageRequests (b : Builder) (size : Int64) (n : Nat) : List Request :=
  (List.range n).map fun index => b.window size (pageOffset size index)

@[simp] theorem Builder.length_pageRequests (b : Builder) (size : Int64) (n : Nat) :
    (b.pageRequests size n).length = n := by
  simp [pageRequests]

theorem Builder.pageRequests_add (b : Builder) (size : Int64) (n more : Nat) :
    b.pageRequests size (n + more) = b.pageRequests size n ++
      (List.range more).map fun index => b.window size (pageOffset size (n + index)) := by
  simp [pageRequests, List.range_add]

/-- What the first `n` pulls of a stream give, and what they ask. -/
def Pager.pulls {α : Type} (p : Pager) (pull : Pull Recorder Pager α) (n : Nat) :
    Pulled α × List Request :=
  (pull.take n (some p)).run []

section
variable {α : Type} (answer : Answering) (b : Builder) (size : Int64)

/-- A pull asks for one page. The answer has an item or ends the stream, and the next pull asks for
the next page unless the answer ends the stream. -/
structure AsksForPages (pull : Pull Recorder Pager α)
    (item : Except Error (List Row) → Option α) : Prop where
  run_eq : ∀ index asked,
    let request := b.window size (pageOffset size index)
    let given := answer asked request
    (pull (b.pager size index)).run asked =
      ((item given).map fun i =>
          (i, if endsStream given then none else some (b.pager size (index + 1))),
        asked ++ [request])
  ends_of_item_eq_none : ∀ given, item given = none → endsStream given = true

/-- Something done with the answer to a request. -/
theorem run_send_bind {β : Type} (asked : List Request) (request : Request)
    (f : Except Error (List Row) → Recorder β) :
    (((Connection.answering answer).send request).run >>= f).run asked =
      (f (answer asked request)).run (asked ++ [request]) := rfl

theorem asksForPages_pullPage :
    AsksForPages answer b size (Pager.pullPage (.answering answer)) some := by
  constructor
  · intro index asked
    refine (run_send_bind answer asked (b.window size (pageOffset size index)) _).trans ?_
    cases answer asked (b.window size (pageOffset size index)) <;> rfl
  · intro given h
    cases h

theorem asksForPages_pullRow :
    AsksForPages answer b size (Pager.pullRow (.answering answer)) rowItem? := by
  constructor
  · intro index asked
    refine (run_send_bind answer asked (b.window size (pageOffset size index)) _).trans ?_
    match answer asked (b.window size (pageOffset size index)) with
    | .error e => rfl
    | .ok [] => rfl
    | .ok (row :: rows) => rfl
  · intro given h
    match given with
    | .error e => rfl
    | .ok [] => rfl
    | .ok (row :: rows) => cases h

/-- One pull and those behind it. -/
theorem run_take_succ {σ : Type} (pull : Pull Recorder σ α) (n : Nat) (s : σ)
    (asked : List Request) :
    (Pull.take pull (n + 1) (some s)).run asked =
      match (pull s).run asked with
      | (none, asked) => (⟨[], true⟩, asked)
      | (some (i, next), asked) =>
        let rest := (Pull.take pull n next).run asked
        (⟨i :: rest.1.items, rest.1.ended⟩, rest.2) := by
  have hbind : ∀ {β : Type} (f : Option (α × Option σ) → Recorder β),
      (pull s >>= f).run asked = (f ((pull s).run asked).1).run ((pull s).run asked).2 :=
    fun _ => rfl
  rw [Pull.take, hbind]
  obtain ⟨_ | ⟨i, next⟩, asked'⟩ := (pull s).run asked <;> rfl

/-- Behind the end nothing is asked. -/
theorem run_take_none {σ : Type} (pull : Pull Recorder σ α) (n : Nat) (asked : List Request) :
    (Pull.take pull n none).run asked = (⟨[], 0 < n⟩, asked) := by
  cases n <;> rfl

variable {answer b size} {pull : Pull Recorder Pager α}
  {item : Except Error (List Row) → Option α}

/-- What some pulls give from page `index` on, and what they ask. -/
theorem AsksForPages.run_take (h : AsksForPages answer b size pull item) (n index : Nat)
    (asked : List Request) :
    let requests := (List.range' index n).map fun i => b.window size (pageOffset size i)
    let came := throughFirst endsStream (answersTo answer asked requests)
    let items := came.filterMap item
    (Pull.take pull n (some (b.pager size index))).run asked =
      (⟨items, items.length < n⟩, asked ++ requests.take came.length) := by
  induction n generalizing index asked with
  | zero =>
    have hzero : (Pull.take pull 0 (some (b.pager size index))).run asked =
        (⟨[], false⟩, asked) := rfl
    simp [hzero, answersTo, throughFirst]
  | succ n ih =>
    have hrequests : (List.range' index (n + 1)).map (fun i => b.window size (pageOffset size i)) =
        b.window size (pageOffset size index) ::
          (List.range' (index + 1) n).map fun i => b.window size (pageOffset size i) := by
      rw [List.range'_succ, List.map_cons]
    simp only [hrequests, answersTo, throughFirst_cons, run_take_succ, h.run_eq]
    generalize hgiven : answer asked (b.window size (pageOffset size index)) = given
    -- The answer that ends the stream may have an item, as an error does, or none. Behind it nothing
    -- is asked; the pull that finds the end is this one without an item, and the next with one.
    cases hitem : item given with
    | none =>
      have hends := h.ends_of_item_eq_none given hitem
      simp [hitem, hends]
    | some i =>
      by_cases hends : endsStream given
      · simp [hitem, hends, run_take_none]
      · simp [hitem, hends, ih]

/-- What some pulls from the first page on give, and what they ask. -/
theorem AsksForPages.pulls_eq (h : AsksForPages answer b size pull item) (n : Nat) :
    let came := throughFirst endsStream (answersTo answer [] (b.pageRequests size n))
    let items := came.filterMap item
    (b.pager size 0).pulls pull n =
      (⟨items, items.length < n⟩, b.pageRequests size came.length) := by
  intro came items
  have hrun := h.run_take n 0 []
  rw [← List.range_eq_range'] at hrun
  have hlength : came.length ≤ n := by
    simp only [came, throughFirst, List.length_take, length_answersTo,
      Builder.length_pageRequests]
    omega
  obtain ⟨more, hmore⟩ := Nat.exists_eq_add_of_le hlength
  have hasked : (b.pageRequests size n).take came.length = b.pageRequests size came.length := by
    rw [hmore, Builder.pageRequests_add]
    exact List.take_left' (b.length_pageRequests size came.length)
  rw [← hasked]
  exact hrun

end

end BoundSql
