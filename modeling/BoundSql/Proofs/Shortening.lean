import BoundSql.Monitor.TraceHook
import Mathlib.Order.Bounds.Defs

/-!
# Shortened texts

A text is cut between two of its characters. The place is looked for backwards from the last byte
that may be kept, and it is the last place that leaves few enough bytes before it
(`isGreatest_lastBoundary`), so that what is kept is the longest beginning that fits
(`longestWithin_takeBytes`). A character takes at most four bytes, so that no more than three of the
bytes that are allowed stay unused, and these the three dots make up for.
-/

namespace BoundSql

namespace Text
variable {limit : Nat} {s : String}

/-! ## Places between characters -/

theorem byteIdx_lastBoundary_le (limit : Nat) (s : String) :
    (lastBoundary s limit).offset.byteIdx ≤ limit := by
  induction limit with
  | zero => exact Nat.le_refl 0
  | succ limit ih =>
      rw [lastBoundary]
      split
      · exact Nat.le_refl (limit + 1)
      · exact Nat.le_succ_of_le ih

theorem le_byteIdx_lastBoundary {n : Nat} (hn : n ≤ limit) (hvalid : String.Pos.Raw.IsValid s ⟨n⟩) :
    n ≤ (lastBoundary s limit).offset.byteIdx := by
  induction limit with
  | zero => exact Nat.le_trans hn (Nat.zero_le _)
  | succ limit ih =>
      rw [lastBoundary]
      split
      · exact hn
      · rename_i hinside
        have hne : n ≠ limit + 1 := fun heq => hinside (heq ▸ hvalid)
        exact ih (by omega)

/-- The search ends between two characters, and as far behind as the limit lets it. -/
theorem isGreatest_lastBoundary (limit : Nat) (s : String) :
    IsGreatest {n | n ≤ limit ∧ String.Pos.Raw.IsValid s ⟨n⟩}
      (lastBoundary s limit).offset.byteIdx := by
  constructor
  · exact ⟨byteIdx_lastBoundary_le limit s, (lastBoundary s limit).isValid⟩
  · rintro n ⟨hn, hvalid⟩
    exact le_byteIdx_lastBoundary hn hvalid

/-! ## Beginnings -/

/-- What is kept is the longest beginning of whole characters that takes at most so many bytes. -/
structure LongestWithin (limit : Nat) (s kept : String) : Prop where
  isPrefix : kept.toList <+: s.toList
  fits : kept.utf8ByteSize ≤ limit
  longest : ∀ t : String, t.toList <+: s.toList → t.utf8ByteSize ≤ limit → t.toList <+: kept.toList

/-- A beginning ends at a place between characters. -/
theorem exists_splits_of_prefix {t : String} (h : t.toList <+: s.toList) :
    ∃ (p : s.Pos) (rest : String), p.Splits t rest := by
  obtain ⟨cs, hcs⟩ := h
  have htext : s = t ++ String.ofList cs := by
    rw [← String.toList_inj, String.toList_append, String.toList_ofList, hcs]
  exact ⟨_, _, String.Pos.splits_ofEqAppend htext⟩

theorem utf8ByteSize_of_splits {p : s.Pos} {t rest : String} (h : p.Splits t rest) :
    t.utf8ByteSize = p.offset.byteIdx :=
  congrArg String.Pos.Raw.byteIdx h.offset_eq_rawEndPos.symm

theorem utf8ByteSize_sliceTo (p : s.Pos) : (s.sliceTo p).copy.utf8ByteSize = p.offset.byteIdx :=
  utf8ByteSize_of_splits p.splits

/-- Cut at the last boundary, a text keeps its longest beginning that fits. -/
theorem longestWithin_sliceTo (limit : Nat) (s : String) :
    LongestWithin limit s (s.sliceTo (lastBoundary s limit)).copy := by
  have hcut := (lastBoundary s limit).splits
  refine ⟨?isPrefix, ?fits, ?longest⟩
  case isPrefix =>
    refine ⟨(s.sliceFrom (lastBoundary s limit)).copy.toList, ?_⟩
    rw [← String.toList_append, ← hcut.eq_append]
  case fits =>
    rw [utf8ByteSize_sliceTo]
    exact byteIdx_lastBoundary_le limit s
  case longest =>
    intro t hprefix hfits
    obtain ⟨p, rest, hp⟩ := exists_splits_of_prefix hprefix
    rw [utf8ByteSize_of_splits hp] at hfits
    have hle : p ≤ lastBoundary s limit := le_byteIdx_lastBoundary hfits p.isValid
    obtain ⟨more, hmore, -⟩ := (hp.le_iff_exists_eq_append hcut).mp hle
    rw [hmore, String.toList_append]
    exact List.prefix_append _ _

theorem longestWithin_takeBytes (limit : Nat) (s : String) :
    LongestWithin limit s (takeBytes limit s) := by
  rw [takeBytes]
  split
  · rename_i hfits
    exact ⟨List.prefix_rfl, hfits, fun _ hprefix _ => hprefix⟩
  · exact longestWithin_sliceTo limit s

/-- The next character would not fit, so less than four bytes are unused. -/
theorem LongestWithin.lt_utf8ByteSize_add {kept : String} (h : LongestWithin limit s kept)
    (hlong : limit < s.utf8ByteSize) : limit < kept.utf8ByteSize + 4 := by
  obtain ⟨cs, hcs⟩ := h.isPrefix
  cases cs with
  | nil =>
      have hkept : kept = s := by rw [← String.toList_inj, ← hcs, List.append_nil]
      exact absurd (hkept ▸ h.fits) (Nat.not_le_of_lt hlong)
  | cons c cs =>
      apply Nat.lt_of_not_le
      intro hmany
      have hprefix : (kept ++ String.singleton c).toList <+: s.toList := by
        refine ⟨cs, ?_⟩
        rw [String.toList_append, String.toList_singleton, List.append_assoc, List.singleton_append,
          hcs]
      have hfits : (kept ++ String.singleton c).utf8ByteSize ≤ limit := by
        have hc := c.utf8Size_le_four
        rw [String.utf8ByteSize_append, String.utf8ByteSize_singleton]
        omega
      have hlength := (h.longest _ hprefix hfits).length_le
      rw [String.toList_append, String.toList_singleton, List.length_append] at hlength
      exact absurd hlength (by simp)

/-- A text that is cut has no more bytes than allowed and the dots, and no fewer than allowed. -/
theorem LongestWithin.utf8ByteSize_dots {kept : String} (h : LongestWithin limit s kept)
    (hlong : limit < s.utf8ByteSize) :
    limit ≤ (kept ++ "...").utf8ByteSize ∧ (kept ++ "...").utf8ByteSize ≤ limit + 3 := by
  have hdots : "...".utf8ByteSize = 3 := rfl
  have hunused := h.lt_utf8ByteSize_add hlong
  have hfits := h.fits
  rw [String.utf8ByteSize_append, hdots]
  omega

/-- What a text is shown as under a limit: itself if it fits, else its longest beginning that fits
and three dots. -/
structure ShownWithin (limit : Nat) (s shown : String) : Prop where
  whole : s.utf8ByteSize ≤ limit → shown = s
  cut : limit < s.utf8ByteSize →
    ∃ kept, LongestWithin limit s kept ∧ shown = kept ++ "..." ∧
      limit ≤ shown.utf8ByteSize ∧ shown.utf8ByteSize ≤ limit + 3

theorem shownWithin_shorten (limit : Nat) (s : String) : ShownWithin limit s (shorten limit s) := by
  constructor
  · intro hfits
    rw [shorten, if_pos hfits]
  · intro hlong
    have hkept := longestWithin_takeBytes limit s
    rw [shorten, if_neg (Nat.not_le_of_lt hlong)]
    exact ⟨takeBytes limit s, hkept, rfl, hkept.utf8ByteSize_dots hlong⟩

end Text

open Text (LongestWithin ShownWithin)

/-- Within every limit a text keeps its longest beginning of whole characters, and all of it if it
fits. The search for the place of the cut ends at the last one between characters within the limit,
and that is where a text is cut that does not fit. The text of a failure is shown within 512 bytes,
and the text of a statement within the limit of the hook that traces it, if it has one. -/
theorem text_cut_between_characters (s : String) :
    (∀ limit, LongestWithin limit s (Text.takeBytes limit s) ∧
      (s.utf8ByteSize ≤ limit → Text.takeBytes limit s = s) ∧
      IsGreatest {n | n ≤ limit ∧ String.Pos.Raw.IsValid s ⟨n⟩}
        (Text.lastBoundary s limit).offset.byteIdx ∧
      (limit < s.utf8ByteSize →
        (Text.takeBytes limit s).utf8ByteSize = (Text.lastBoundary s limit).offset.byteIdx)) ∧
    (∃ shown, Outcome.ofText s = .failed shown ∧ ShownWithin 512 s shown) ∧
    ∀ h : TraceHook, (∀ limit, h.maxLength = some limit → ShownWithin limit s (h.shown s)) ∧
      (h.maxLength = none → h.shown s = s) := by
  refine ⟨?beginning, ?failure, ?statement⟩
  case beginning =>
    intro limit
    refine ⟨Text.longestWithin_takeBytes limit s, ?_, Text.isGreatest_lastBoundary limit s, ?_⟩
    · intro hfits
      rw [Text.takeBytes, if_pos hfits]
    · intro hlong
      rw [Text.takeBytes, if_neg (Nat.not_le_of_lt hlong), Text.utf8ByteSize_sliceTo]
  case failure =>
    exact ⟨Text.shorten 512 s, rfl, Text.shownWithin_shorten 512 s⟩
  case statement =>
    intro h
    constructor
    · intro limit hlimit
      rw [TraceHook.shown, hlimit]
      exact Text.shownWithin_shorten limit s
    · intro hnone
      rw [TraceHook.shown, hnone]

/-- The second character takes four bytes, from the second to the fifth: none of it is kept within
four. -/
theorem text_cut_between_characters_wide :
    4 < "a😀b".utf8ByteSize ∧
      Text.takeBytes 4 "a😀b" = "a" ∧
      (Text.lastBoundary "a😀b" 4).offset.byteIdx = 1 ∧
      ({ maxLength := some 4 } : TraceHook).shown "a😀b" = "a..." ∧
      ShownWithin 4 "a😀b" "a..." := by
  obtain ⟨hbeginnings, -, hhooks⟩ := text_cut_between_characters "a😀b"
  obtain ⟨-, -, -, hcut⟩ := hbeginnings 4
  have hlong : 4 < "a😀b".utf8ByteSize := by decide
  have hkept : Text.takeBytes 4 "a😀b" = "a" := by decide +kernel
  have hshown : ({ maxLength := some 4 } : TraceHook).shown "a😀b" = "a..." := by
    decide +kernel
  refine ⟨hlong, hkept, ?_, hshown, ?_⟩
  · rw [← hcut hlong, hkept]
    rfl
  · rw [← hshown]
    exact (hhooks { maxLength := some 4 }).1 4 rfl

end BoundSql
