import BoundSql.Proofs.Template.Clause
import Mathlib.Data.List.Infix
import Mathlib.Data.List.TakeWhile

/-!
# Occurrences of markers

`markers` lists the numbers of all markers in a text: it tries every position and does not know
what stands before it. `values_fragment` says that the scan of a fragment, which goes over the text
only once, binds the values of just these markers.

A marker holds no opening brace behind its first character, so no marker begins inside another and
the scan may go on behind a marker it has read.
-/

namespace BoundSql.Sql

/-- The digits of the marker with which a text begins. -/
def markerDigits? : List Char → Option (List Char)
  | [] => none
  | c :: rest =>
    let digits := rest.takeWhile Text.isDigit
    if c = openBrace ∧ digits ≠ [] ∧ rest[digits.length]? = some closeBrace then some digits
    else none

/-- The numbers of the markers at all positions of a text. -/
def markers (cs : List Char) : List Nat :=
  cs.tails.filterMap fun suffix => (markerDigits? suffix).map Text.digitsValue

theorem markers_cons (c : Char) (cs : List Char) :
    markers (c :: cs) =
      ((markerDigits? (c :: cs)).map Text.digitsValue).toList ++ markers cs := by
  rw [markers, List.tails_cons, List.filterMap_cons]
  cases (markerDigits? (c :: cs)).map Text.digitsValue <;> rfl

theorem markers_cons_of_ne {c : Char} (h : c ≠ openBrace) (cs : List Char) :
    markers (c :: cs) = markers cs := by
  simp [markers_cons, markerDigits?, h]

/-- A digit is no opening brace. -/
theorem ne_openBrace_of_isDigit {c : Char} (h : Text.isDigit c) : c ≠ openBrace := by
  rintro rfl
  exact absurd h (by decide)

theorem markers_digits_append {digits : List Char} (h : ∀ c ∈ digits, Text.isDigit c)
    (cs : List Char) : markers (digits ++ cs) = markers cs := by
  induction digits with
  | nil => rfl
  | cons c digits ih =>
      rw [List.cons_append, markers_cons_of_ne (ne_openBrace_of_isDigit (h c (by simp)))]
      exact ih fun c hc => h c (by simp [hc])

section
variable {digits : List Char} (hdigits : ∀ c ∈ digits, Text.isDigit c)
include hdigits

/-- Behind digits that another character ends, the closing brace decides. -/
theorem markerDigits?_cons_append {c : Char} (hc : Text.isDigit c = false) (rest : List Char) :
    markerDigits? (openBrace :: (digits ++ c :: rest)) =
      if digits ≠ [] ∧ c = closeBrace then some digits else none := by
  have hrun : (digits ++ c :: rest).takeWhile Text.isDigit = digits := by
    rw [List.takeWhile_append_of_pos hdigits, List.takeWhile_cons_of_neg (by simp [hc]),
      List.append_nil]
  simp [markerDigits?, hrun]

/-- Digits behind an opening brace are a marker's if a closing brace ends them, and are passed over
otherwise. -/
theorem markers_openBrace_append {c : Char} (hc : Text.isDigit c = false) (rest : List Char) :
    markers (openBrace :: (digits ++ c :: rest)) =
      (if digits ≠ [] ∧ c = closeBrace then [Text.digitsValue digits] else []) ++
        markers (c :: rest) := by
  rw [markers_cons, markerDigits?_cons_append hdigits hc, markers_digits_append hdigits]
  split <;> rfl

theorem markerDigits?_openBrace_digits : markerDigits? (openBrace :: digits) = none := by
  have hrun : digits.takeWhile Text.isDigit = digits :=
    List.takeWhile_eq_self_iff.mpr hdigits
  simp [markerDigits?, hrun]

/-- Digits at the end of a text make no marker. -/
theorem markers_openBrace_digits : markers (openBrace :: digits) = [] := by
  have htail := markers_digits_append hdigits []
  rw [List.append_nil] at htail
  rw [markers_cons, htail, markerDigits?_openBrace_digits hdigits]
  rfl

end

namespace Template

/-- The text that a scan has read of a possible marker. -/
def pendingChars : Option (List Char) → List Char
  | none => []
  | some digits => openBrace :: digits

theorem values_marker (values : List Value) (digits : List Char) :
    (marker values digits).values = values[Text.digitsValue digits]?.toList := by
  unfold marker
  split
  · next v h => simp [h]
  · next h => simp only [values_chars, h, Option.toList_none]

/-- A scan binds the values of the markers in what it has still to decide on. -/
theorem values_scan (values : List Value) (pending : Option (List Char)) (cs : List Char)
    (hpending : ∀ digits ∈ pending, ∀ c ∈ digits, Text.isDigit c) :
    (scan values pending cs).values =
      (markers (pendingChars pending ++ cs)).filterMap (values[·]?) := by
  induction cs generalizing pending with
  | nil =>
      cases pending with
      | none => simp [scan, Template.values, pendingChars, markers, markerDigits?]
      | some digits =>
          rw [List.append_nil, pendingChars, markers_openBrace_digits (hpending digits rfl)]
          simp [scan]
  | cons c rest ih =>
      cases pending with
      | none =>
          simp only [scan]
          split
          · next h =>
              rw [ih (some []) (by simp), h]
              rfl
          · next h =>
              rw [values_append, values_chars, List.nil_append, ih none (by simp)]
              simp only [pendingChars, List.nil_append, markers_cons_of_ne h]
      | some digits =>
          have hdigits := hpending digits rfl
          simp only [scan]
          split
          · next h =>
              have hmore : ∀ d ∈ digits ++ [c], Text.isDigit d := by
                simpa [or_imp, forall_and] using ⟨hdigits, h⟩
              rw [ih (some (digits ++ [c])) (by simpa using hmore)]
              simp [pendingChars]
          · next hc =>
              have hc : Text.isDigit c = false := by simpa using hc
              change _ = (markers (openBrace :: (digits ++ c :: rest))).filterMap _
              rw [markers_openBrace_append hdigits hc]
              split
              · next h =>
                  obtain ⟨rfl, hne⟩ : c = closeBrace ∧ digits ≠ [] := by simpa using h
                  rw [values_append, values_marker, ih none (by simp),
                    if_pos ⟨hne, rfl⟩, markers_cons_of_ne (by decide)]
                  cases hv : values[Text.digitsValue digits]? <;> simp [hv, pendingChars]
              · next h =>
                  have hno : ¬(digits ≠ [] ∧ c = closeBrace) := by
                    rintro ⟨hne, rfl⟩
                    exact h (by simp [hne])
                  rw [if_neg hno, List.nil_append]
                  split
                  · next hopen =>
                      rw [values_append, values_chars, List.nil_append,
                        ih (some []) (by simp), hopen]
                      rfl
                  · next hopen =>
                      rw [values_append, values_chars, List.nil_append, ih none (by simp),
                        markers_cons_of_ne hopen]
                      rfl

end Template

end BoundSql.Sql

namespace BoundSql

/-- The value of each marker that has one, in the order of the markers. -/
def Fragment.parameters (f : Fragment) : List Value :=
  (Sql.markers f.signature.toList).filterMap (f.values[·]?)

/-- A fragment binds the values of its markers. -/
theorem Sql.Template.values_fragment (f : Fragment) :
    (fragment f).values = f.parameters :=
  values_scan f.values none f.signature.toList (by simp)

end BoundSql
