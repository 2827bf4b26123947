import BoundSql.Proofs.Markers
import BoundSql.Proofs.Placeholders

/-!
# Filled fragments

A fragment is its text cut at the markers that have a value, wherever they stand in it. No two of
them overlap, because a marker holds no opening brace behind its first character, so there is one
way to cut. `fill_replaces_markers` says that filling puts a placeholder in the place of each of
these markers, binds its value, and leaves everything between them as it is. The cut does not depend
on the placeholders, so what they look like is not read again.
-/

namespace BoundSql.Sql

/-! ## Markers in a text -/

/-- A marker as it is written. -/
def markerChars (digits : List Char) : List Char :=
  openBrace :: digits ++ [closeBrace]

/-- Whether digits in braces are a marker for this value. -/
structure Selects (values : List Value) (digits : List Char) (v : Value) : Prop where
  ne_nil : digits ≠ []
  isDigit : ∀ c ∈ digits, Text.isDigit c
  value : values[Text.digitsValue digits]? = some v

/-- Whether a marker for a value stands in the text right behind `before`. -/
structure MarkedAt (values : List Value) (cs before digits : List Char) (v : Value) : Prop where
  selects : Selects values digits v
  written : before ++ markerChars digits <+: cs

section
variable {values : List Value} {cs before before' digits digits' : List Char} {v v' : Value}

/-- Inside a marker no other one begins. -/
theorem Selects.openBrace_not_mem (h : Selects values digits v) :
    openBrace ∉ digits ++ [closeBrace] := by
  intro hmem
  obtain hmem | hmem := List.mem_append.mp hmem
  · exact ne_openBrace_of_isDigit (h.isDigit _ hmem) rfl
  · exact absurd (List.mem_singleton.mp hmem) (by decide)

/-- A text that begins with a marker has its digits there. -/
theorem MarkedAt.markerDigits?_eq (h : MarkedAt values cs [] digits v) :
    markerDigits? cs = some digits := by
  obtain ⟨rest, hrest⟩ := h.written
  have hdigits := markerDigits?_cons_append h.selects.isDigit (c := closeBrace) (by decide) rest
  rw [if_pos ⟨h.selects.ne_nil, rfl⟩] at hdigits
  rw [← hrest, ← hdigits]
  simp [markerChars]

/-- A marker that begins behind another one begins behind its end. -/
theorem MarkedAt.length_le (h : MarkedAt values cs before digits v)
    (h' : MarkedAt values cs before' digits' v') (hlt : before.length < before'.length) :
    (before ++ markerChars digits).length ≤ before'.length := by
  by_contra hoverlap
  have hopens : before' ++ [openBrace] <+: cs := by
    refine List.IsPrefix.trans ?_ h'.written
    exact ⟨digits' ++ [closeBrace], by simp [markerChars]⟩
  have hbegins : before ++ [openBrace] <+: before' := by
    refine List.prefix_of_prefix_length_le ?_ ((List.prefix_append _ _).trans h'.written)
      (by simpa [Nat.succ_le_iff] using hlt)
    refine List.IsPrefix.trans ?_ h.written
    exact ⟨digits ++ [closeBrace], by simp [markerChars]⟩
  obtain ⟨middle, rfl⟩ := hbegins
  have hinside : before ++ [openBrace] ++ middle ++ [openBrace] <+: before ++ markerChars digits :=
    List.prefix_of_prefix_length_le hopens h.written
      (by simpa [Nat.succ_le_iff] using hoverlap)
  have hmem : middle ++ [openBrace] <+: digits ++ [closeBrace] := by
    simpa [markerChars, List.append_assoc] using hinside
  exact h.selects.openBrace_not_mem (hmem.subset (by simp))

end

/-! ## Cuts -/

/-- A marker for a value, and the text between it and the next marker. -/
structure Mark where
  digits : List Char
  value : Value
  behind : List Char

/-- The text of a marker and what stands behind it. -/
def Mark.chars (mark : Mark) : List Char :=
  markerChars mark.digits ++ mark.behind

/-- A text cut at its markers: what stands before the first of them, and all of them. -/
inductive Cut (values : List Value) : List Char → List Char → List Mark → Prop
  | nil : Cut values [] [] []
  | char {c : Char} {rest first : List Char} {marks : List Mark}
      (free : ∀ digits ∈ markerDigits? (c :: rest), values[Text.digitsValue digits]? = none)
      (tail : Cut values rest first marks) : Cut values (c :: rest) (c :: first) marks
  | marker {digits rest first : List Char} {v : Value} {marks : List Mark}
      (selects : Selects values digits v) (tail : Cut values rest first marks) :
      Cut values (markerChars digits ++ rest) [] (⟨digits, v, first⟩ :: marks)

namespace Cut
variable {values : List Value} {cs first : List Char} {marks : List Mark}

/-- The pieces of a cut are the text. -/
theorem eq_append (h : Cut values cs first marks) : cs = first ++ marks.flatMap Mark.chars := by
  induction h with
  | nil => rfl
  | char _ _ ih => rw [ih, List.cons_append]
  | marker _ _ ih => rw [ih]; simp [Mark.chars]

theorem selects (h : Cut values cs first marks) :
    ∀ mark ∈ marks, Selects values mark.digits mark.value := by
  induction h with
  | nil => simp
  | char _ _ ih => exact ih
  | marker selects _ ih => exact List.forall_mem_cons.mpr ⟨selects, ih⟩

/-- Text in which no marker can begin belongs to what stands before the first marker. -/
theorem append_chars {front : List Char} (hfront : openBrace ∉ front)
    (h : Cut values cs first marks) : Cut values (front ++ cs) (front ++ first) marks := by
  induction front with
  | nil => exact h
  | cons c front ih =>
      simp only [List.mem_cons, not_or] at hfront
      refine .char ?_ (ih hfront.2)
      simp [markerDigits?, Ne.symm hfront.1]

/-- Digits behind an opening brace belong to what stands before the first marker as well, if they
are not those of a marker with a value. -/
theorem openBrace_append {digits : List Char} (hdigits : ∀ c ∈ digits, Text.isDigit c)
    (hfree : ∀ own ∈ markerDigits? (openBrace :: (digits ++ cs)),
      values[Text.digitsValue own]? = none)
    (h : Cut values cs first marks) :
    Cut values (openBrace :: (digits ++ cs)) (openBrace :: (digits ++ first)) marks :=
  .char hfree (h.append_chars fun hmem => ne_openBrace_of_isDigit (hdigits _ hmem) rfl)

/-- Where no marker with a value ends, the brace and the digits behind it are text, and so is what
follows. -/
theorem undecided {digits rest : List Char} {c : Char}
    (hdigits : ∀ d ∈ digits, Text.isDigit d) (hc : Text.isDigit c = false)
    (hfree : digits ≠ [] ∧ c = closeBrace → values[Text.digitsValue digits]? = none)
    (h : Cut values (c :: rest) first marks) :
    Cut values (openBrace :: digits ++ c :: rest) (openBrace :: digits ++ first) marks := by
  apply h.openBrace_append hdigits
  intro own hown
  rw [markerDigits?_cons_append hdigits hc rest, Option.mem_def,
    Option.ite_none_right_eq_some] at hown
  obtain ⟨hmarker, hsame⟩ := hown
  exact Option.some.inj hsame ▸ hfree hmarker

/-- A marker of the text is one of those at which it is cut. -/
theorem exists_of_markedAt (h : Cut values cs first marks) {before digits : List Char} {v : Value}
    (hmarked : MarkedAt values cs before digits v) :
    ∃ front mark back, marks = front ++ mark :: back ∧
      before = first ++ front.flatMap Mark.chars ∧ mark.digits = digits ∧ mark.value = v := by
  induction h generalizing before with
  | nil =>
      obtain ⟨-, hnil⟩ := List.append_eq_nil_iff.mp (List.prefix_nil.mp hmarked.written)
      cases hnil
  | @char c rest first marks free tail ih =>
      cases before with
      | nil =>
          have hnone := free digits hmarked.markerDigits?_eq
          rw [hmarked.selects.value] at hnone
          cases hnone
      | cons b before =>
          obtain ⟨rfl, hwritten⟩ := List.cons_prefix_cons.mp hmarked.written
          obtain ⟨front, mark, back, hmarks, rfl, hmark⟩ := ih ⟨hmarked.selects, hwritten⟩
          exact ⟨front, mark, back, hmarks, rfl, hmark⟩
  | @marker own rest first w marks selects tail ih =>
      have hown : MarkedAt values (markerChars own ++ rest) [] own w :=
        ⟨selects, List.prefix_append _ _⟩
      cases before with
      | nil =>
          have hdigits := hown.markerDigits?_eq.symm.trans hmarked.markerDigits?_eq
          obtain rfl : own = digits := Option.some.inj hdigits
          have hvalue := selects.value.symm.trans hmarked.selects.value
          exact ⟨[], _, marks, rfl, rfl, rfl, Option.some.inj hvalue⟩
      | cons b before =>
          have hlength := hown.length_le hmarked (by simp)
          obtain ⟨more, hmore⟩ : markerChars own <+: b :: before :=
            List.prefix_of_prefix_length_le (List.prefix_append _ rest)
              ((List.prefix_append _ _).trans hmarked.written) hlength
          have hwritten : more ++ markerChars digits <+: rest := by
            have hwhole := hmarked.written
            rwa [← hmore, List.append_assoc, List.prefix_append_right_inj] at hwhole
          obtain ⟨front, mark, back, hmarks, rfl, hmark⟩ := ih ⟨hmarked.selects, hwritten⟩
          refine ⟨_ :: front, mark, back, congrArg (_ :: ·) hmarks, ?_, hmark⟩
          rw [← hmore]
          simp [Mark.chars]

/-- The markers at which a text is cut are all its markers, each at its place. -/
theorem markedAt_iff (h : Cut values cs first marks) {before digits : List Char} {v : Value} :
    MarkedAt values cs before digits v ↔
      ∃ front mark back, marks = front ++ mark :: back ∧
        before = first ++ front.flatMap Mark.chars ∧ mark.digits = digits ∧ mark.value = v := by
  constructor
  · exact h.exists_of_markedAt
  · rintro ⟨front, mark, back, rfl, rfl, rfl, rfl⟩
    refine ⟨h.selects mark (by simp), mark.behind ++ back.flatMap Mark.chars, ?_⟩
    rw [h.eq_append]
    simp [Mark.chars]

end Cut

/-! ## The template of a cut -/

namespace Template

/-- The text of a cut with a hole in the place of every marker. -/
def ofCut (first : List Char) (marks : List Mark) : Template :=
  chars first ++ marks.flatMap fun mark => hole mark.value ++ chars mark.behind

theorem ofCut_append (front first : List Char) (marks : List Mark) :
    ofCut (front ++ first) marks = chars front ++ ofCut first marks := by
  simp [ofCut, chars]

theorem chunks_chars_append (cs : List Char) (t : Template) :
    (chars cs ++ t).chunks = (.ofList cs ++ t.chunks.1, t.chunks.2) := by
  induction cs with
  | nil => simp [chars]
  | cons c cs ih =>
      change chunks (.char c :: (chars cs ++ t)) = _
      rw [chunks, ih, String.ofList_cons, String.append_assoc]

theorem chunks_hole_append (v : Value) (t : Template) :
    (hole v ++ t).chunks = ("", (v, t.chunks.1) :: t.chunks.2) := rfl

theorem chunks_ofCut (first : List Char) (marks : List Mark) :
    (ofCut first marks).chunks =
      (.ofList first, marks.map fun mark => (mark.value, .ofList mark.behind)) := by
  induction marks generalizing first with
  | nil =>
      rw [ofCut, chunks_chars_append]
      simp [chunks]
  | cons mark marks ih =>
      have hrest := ih mark.behind
      rw [ofCut] at hrest ⊢
      rw [chunks_chars_append, List.flatMap_cons, List.append_assoc, chunks_hole_append, hrest]
      simp

/-- A scan finds the markers in what it has still to decide on. -/
theorem exists_cut_scan (values : List Value) (pending : Option (List Char)) (cs : List Char)
    (hpending : ∀ digits ∈ pending, ∀ c ∈ digits, Text.isDigit c) :
    ∃ first marks, Cut values (pendingChars pending ++ cs) first marks ∧
      scan values pending cs = ofCut first marks := by
  induction cs generalizing pending with
  | nil =>
      cases pending with
      | none => exact ⟨[], [], .nil, rfl⟩
      | some digits =>
          have hdigits := hpending digits rfl
          have hnone := markerDigits?_openBrace_digits hdigits
          refine ⟨openBrace :: digits, [], ?_, ?_⟩
          · have hnil : Cut values [] [] [] := .nil
            have hcut := hnil.openBrace_append hdigits (by simp [hnone])
            simpa [pendingChars] using hcut
          · simp [scan, ofCut]
  | cons c rest ih =>
      cases pending with
      | none =>
          simp only [scan]
          split
          · next hopen =>
              obtain ⟨first, marks, hcut, hscan⟩ := ih (some []) (by simp)
              exact ⟨first, marks, hopen ▸ hcut, hscan⟩
          · next hopen =>
              obtain ⟨first, marks, hcut, hscan⟩ := ih none (by simp)
              have hfront : openBrace ∉ [c] := by simpa [eq_comm] using hopen
              have htext : Cut values ([c] ++ rest) ([c] ++ first) marks :=
                hcut.append_chars hfront
              refine ⟨[c] ++ first, marks, htext, ?_⟩
              rw [hscan, ofCut_append]
      | some digits =>
          have hdigits := hpending digits rfl
          simp only [scan]
          split
          · next hc =>
              have hmore : ∀ d ∈ digits ++ [c], Text.isDigit d := by
                simpa [or_imp, forall_and] using ⟨hdigits, hc⟩
              obtain ⟨first, marks, hcut, hscan⟩ :=
                ih (some (digits ++ [c])) (by simpa using hmore)
              refine ⟨first, marks, ?_, hscan⟩
              simpa [pendingChars] using hcut
          · next hc =>
              have hc : Text.isDigit c = false := by simpa using hc
              split
              · next hmarker =>
                  obtain ⟨rfl, hne⟩ : c = closeBrace ∧ digits ≠ [] := by simpa using hmarker
                  obtain ⟨first, marks, hcut, hscan⟩ := ih none (by simp)
                  cases hvalue : values[Text.digitsValue digits]? with
                  | some v =>
                      refine ⟨[], ⟨digits, v, first⟩ :: marks, ?_, ?_⟩
                      · have hmarked := Cut.marker ⟨hne, hdigits, hvalue⟩ hcut
                        simpa [pendingChars, markerChars] using hmarked
                      · simp only [marker, hvalue, hscan, ofCut]
                        simp [chars]
                  | none =>
                      have hfront : openBrace ∉ [closeBrace] := by decide
                      refine ⟨_, marks, (hcut.append_chars hfront).undecided hdigits hc
                        fun _ => hvalue, ?_⟩
                      simp only [marker, hvalue, hscan, ← ofCut_append]
                      simp
              · next hmarker =>
                  have hfree : ¬(digits ≠ [] ∧ c = closeBrace) := by
                    rintro ⟨hne, rfl⟩
                    exact hmarker (by simp [hne])
                  split
                  · next hopen =>
                      obtain rfl := hopen
                      obtain ⟨first, marks, hcut, hscan⟩ := ih (some []) (by simp)
                      refine ⟨_, marks, hcut.undecided hdigits hc fun h => absurd h hfree, ?_⟩
                      rw [hscan, ofCut_append]
                  · next hopen =>
                      obtain ⟨first, marks, hcut, hscan⟩ := ih none (by simp)
                      have hfront : openBrace ∉ [c] := by simpa [eq_comm] using hopen
                      refine ⟨_, marks, (hcut.append_chars hfront).undecided hdigits hc
                        fun h => absurd h hfree, ?_⟩
                      rw [hscan, ← ofCut_append, List.append_assoc]

end Template

open Template

/-- The text of a fragment is cut at all its markers that have a value, wherever they stand, and none
of them overlap. Filled behind values that are bound already, it has the placeholders of the next
positions in the place of these markers, whose values are bound in their order, and everything else
as it stands in the fragment. -/
theorem fill_replaces_markers (f : Fragment) :
    ∃ first marks, f.signature.toList = first ++ marks.flatMap Mark.chars ∧
      (∀ before digits v, MarkedAt f.values f.signature.toList before digits v ↔
        ∃ front mark back, marks = front ++ mark :: back ∧
          before = first ++ front.flatMap Mark.chars ∧ mark.digits = digits ∧ mark.value = v) ∧
      (∀ before digits v before' digits' v',
        MarkedAt f.values f.signature.toList before digits v →
        MarkedAt f.values f.signature.toList before' digits' v' →
        before.length < before'.length →
          (before ++ markerChars digits).length ≤ before'.length) ∧
      ∀ (d : Dialect) (bound : List Value),
        d.fillAfter bound f =
          { sql := .ofList first ++ String.join
              (marks.mapIdx fun i mark =>
                d.placeholder (bound.length + 1 + i) ++ .ofList mark.behind)
            values := bound ++ marks.map Mark.value } := by
  obtain ⟨first, marks, hcut, hscan⟩ :=
    exists_cut_scan f.values none f.signature.toList (by simp)
  have hfragment : fragment f = ofCut first marks := hscan
  refine ⟨first, marks, hcut.eq_append, ?marked, ?apart, ?filled⟩
  case marked =>
    intro before digits v
    exact hcut.markedAt_iff
  case apart =>
    intro before digits v before' digits' v' h h' hlt
    exact h.length_le h' hlt
  case filled =>
    intro d bound
    have hsteps : (marks.map fun mark => (mark.value, String.ofList mark.behind)).mapIdx
        (fun i step => d.placeholder (bound.length + 1 + i) ++ step.2) =
          marks.mapIdx fun i mark => d.placeholder (bound.length + 1 + i) ++ .ofList mark.behind :=
      List.mapIdx_eq_iff.mpr fun i => by simp [Function.comp_def]
    rw [Dialect.fillAfter, ← print_fragment, Printer.after, run_print, hfragment, write_eq_chunks,
      values_eq_chunks, chunks_ofCut, hsteps, List.map_map]
    rfl

/-- A fragment with a brace in front of a marker, a marker with a leading zero, a marker without a
value and a brace that is left open. -/
def strayBraces : Fragment :=
  ⟨"\x7b\x7b0\x7d = \x7b01\x7d + \x7b9\x7d \x7b", [.int 7, .text "\x7b0\x7d"]⟩

theorem fill_replaces_markers_strayBraces :
    let cs := strayBraces.signature.toList
    MarkedAt strayBraces.values cs (cs.take 1) ['0'] (.int 7) ∧
      MarkedAt strayBraces.values cs (cs.take 7) ['0', '1'] (.text "\x7b0\x7d") ∧
      (cs.take 1 ++ markerChars ['0']).length ≤ (cs.take 7).length ∧
      (Dialect.postgres.fillAfter [.null] strayBraces).sql =
        "\x7b$2 = $3 + \x7b9\x7d \x7b" ∧
      (Dialect.postgres.fillAfter [.null] strayBraces).values =
        [.null, .int 7, .text "\x7b0\x7d"] := by
  intro cs
  have hfirst : MarkedAt strayBraces.values cs (cs.take 1) ['0'] (.int 7) :=
    ⟨⟨by decide, by simp [Text.isDigit], rfl⟩, by decide +kernel⟩
  have hsecond : MarkedAt strayBraces.values cs (cs.take 7) ['0', '1'] (.text "\x7b0\x7d") :=
    ⟨⟨by decide, by simp [Text.isDigit], rfl⟩, by decide +kernel⟩
  obtain ⟨_, _, -, -, hapart, -⟩ := fill_replaces_markers strayBraces
  refine ⟨hfirst, hsecond, hapart _ _ _ _ _ _ hfirst hsecond (by decide +kernel), ?_, ?_⟩
  · decide +kernel
  · rfl

end BoundSql.Sql
