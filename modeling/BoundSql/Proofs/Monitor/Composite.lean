import BoundSql.Monitor.Instrumented

/-!
# Several observers as one

Hooks and monitors that are made one stand for their list: one that stands for a list inside another
list may be replaced by its members (`Hook.all_nested`, `Monitor.all_nested`). So observers made one
to any depth are those at the leaves, from left to right (`Observers.all_hook_eq`,
`Observers.monitor_eq`), and a connection to which hooks are added one by one has them all in the
order in which they are added (`Instrumented.hooked_addHooks`).
-/

namespace BoundSql

open BoundSql.Calendar (Duration)

variable {m : Type → Type} [Monad m]

/-! ## Lists of observers -/

/-- What is said in the end, if more is only asked behind what lets a statement pass. -/
def Verdict.orElse (verdict : Verdict) (more : m Verdict) : m Verdict :=
  match verdict with
  | .proceed => more
  | .abort reason => return .abort reason

theorem Verdict.orElse_proceed (verdict : Verdict) :
    verdict.orElse (pure .proceed) = (pure verdict : m Verdict) := by
  cases verdict <;> rfl

theorem Hook.firstAbort_cons (ctx : Context) (h : Hook m) (hs : List (Hook m)) :
    firstAbort ctx (h :: hs) = (do (← h.before ctx).orElse (firstAbort ctx hs)) := by
  rw [firstAbort]
  apply bind_congr
  intro verdict
  cases verdict <;> rfl

section
variable [LawfulMonad m]

theorem Verdict.orElse_bind (verdict : Verdict) (more last : m Verdict) :
    (do (← verdict.orElse more).orElse last) = verdict.orElse (do (← more).orElse last) := by
  cases verdict with
  | proceed => rfl
  | abort reason => simp [orElse]

namespace Hook

theorem firstAbort_append (ctx : Context) (front back : List (Hook m)) :
    firstAbort ctx (front ++ back) =
      (do (← firstAbort ctx front).orElse (firstAbort ctx back)) := by
  induction front with
  | nil => simp [firstAbort, Verdict.orElse]
  | cons h front ih =>
      rw [List.cons_append, firstAbort_cons, ih, firstAbort_cons, bind_assoc]
      simp only [Verdict.orElse_bind]

/-- Hooks that are one inside a list may stand in the list themselves. -/
theorem all_nested (front middle back : List (Hook m)) :
    all (front ++ all middle :: back) = all (front ++ (middle ++ back)) := by
  apply Hook.ext
  · funext ctx
    simp only [all]
    rw [firstAbort_append, firstAbort_append ctx front, firstAbort_append ctx middle,
      firstAbort_cons]
  · funext ctx duration outcome
    simp only [all, List.forM_eq_forM, List.forM_append, List.forM_cons]

/-- The hook that lets every statement pass may be left out. -/
theorem all_none_cons (hooks : List (Hook m)) : all (none :: hooks) = all hooks :=
  all_nested [] [] hooks

/-- A single hook stands for itself. -/
theorem all_singleton (h : Hook m) : all [h] = h := by
  apply Hook.ext
  · funext ctx
    simp only [all]
    rw [firstAbort_cons, firstAbort]
    simp only [Verdict.orElse_proceed, bind_pure]
  · funext ctx duration outcome
    simp only [all, List.forM_eq_forM, List.forM_cons, List.forM_nil]
    exact bind_pure _

end Hook

namespace Monitor

/-- Monitors that are one inside a list may stand in the list themselves. -/
theorem all_nested (front middle back : List (Monitor m)) :
    all (front ++ all middle :: back) = all (front ++ (middle ++ back)) := by
  simp only [all, List.forM_eq_forM, List.forM_append, List.forM_cons]

/-- A single monitor stands for itself. -/
theorem all_singleton (w : Monitor m) : all [w] = w := by
  have hsingle : ∀ event : Monitor m → m PUnit, [w].forM event = event w := by
    intro event
    rw [List.forM_eq_forM, List.forM_cons, List.forM_nil]
    exact bind_pure _
  simp only [all, hsingle]

end Monitor

end

/-! ## Observers to any depth -/

/-- Single observers, and several that are made one. -/
inductive Observers (ι : Type) where
  | one (i : ι)
  | several (members : List (Observers ι))

namespace Observers
variable {ι α : Type}

mutual

/-- The observers as one, from single ones and a way to make several one. -/
def join (single : ι → α) (all : List α → α) : Observers ι → α
  | one i => single i
  | several members => all (joinEach single all members)
termination_by structural observers => observers

/-- Each of some observers as one. -/
def joinEach (single : ι → α) (all : List α → α) : List (Observers ι) → List α
  | [] => []
  | first :: rest => join single all first :: joinEach single all rest
termination_by structural observers => observers

end

mutual

/-- The single observers from left to right. -/
def leaves : Observers ι → List ι
  | one i => [i]
  | several members => leavesOf members
termination_by structural observers => observers

/-- The single observers in a list from left to right. -/
def leavesOf : List (Observers ι) → List ι
  | [] => []
  | first :: rest => leaves first ++ leavesOf rest
termination_by structural observers => observers

end

/-- Making one of several where members may stand for what they make. -/
structure Flattens (all : List α → α) : Prop where
  nested : ∀ front middle back, all (front ++ all middle :: back) = all (front ++ (middle ++ back))
  singleton : ∀ a, all [a] = a

section
variable {single : ι → α} {all : List α → α} (h : Flattens all)
include h

mutual

/-- The leaves may stand for the whole. -/
theorem Flattens.join_eq : ∀ observers : Observers ι,
    join single all observers = all (observers.leaves.map single)
  | one i => (h.singleton (single i)).symm
  | several members => Flattens.all_joinEach members []
termination_by structural observers => observers

/-- Behind others, too, the leaves may stand for the observers of a list. -/
theorem Flattens.all_joinEach : ∀ (members : List (Observers ι)) (front : List α),
    all (front ++ joinEach single all members) = all (front ++ (leavesOf members).map single)
  | [], _ => rfl
  | first :: rest, front => by
    rw [joinEach, Flattens.join_eq first, h.nested, ← List.append_assoc,
      Flattens.all_joinEach rest, leavesOf, List.map_append, List.append_assoc]
termination_by structural members => members

end

end

theorem joinEach_eq_map (single : ι → α) (all : List α → α) (members : List (Observers ι)) :
    joinEach single all members = members.map (join single all) := by
  induction members with
  | nil => rfl
  | cons first rest ih => rw [joinEach, ih, List.map_cons]

/-- The hook that observers are, each single one being a hook. -/
def hook (single : ι → Hook m) : Observers ι → Hook m :=
  join single .all

/-- The monitor that observers are, each single one being a monitor. -/
def monitor (single : ι → Monitor m) : Observers ι → Monitor m :=
  join single .all

variable [LawfulMonad m]

/-- Hooks in a list are the single hooks from left to right. -/
theorem all_hook_eq (single : ι → Hook m) (list : List (Observers ι)) :
    Hook.all (list.map (hook single)) = .all ((leavesOf list).map single) := by
  have hflattens : Flattens (Hook.all (m := m)) := ⟨Hook.all_nested, Hook.all_singleton⟩
  rw [← List.nil_append (List.map single _), ← hflattens.all_joinEach, joinEach_eq_map]
  rfl

theorem monitor_eq (single : ι → Monitor m) (observers : Observers ι) :
    observers.monitor single = .all (observers.leaves.map single) :=
  Flattens.join_eq ⟨Monitor.all_nested, Monitor.all_singleton⟩ observers

end Observers

/-! ## Hooks of a connection -/

namespace Instrumented

/-- The same with more hooks, added one by one. -/
def addHooks (i : Instrumented m) (hooks : List (Hook m)) : Instrumented m :=
  hooks.foldl addHook i

variable [LawfulMonad m]

/-- A hook is added behind those there are. -/
theorem hooked_addHook (i : Instrumented m) (h : Hook m) :
    (i.addHook h).hooked = .all [i.hooked, h] := by
  cases hook : i.hook with
  | none =>
      have hnone : Hook.all [Hook.none, h] = h := by
        rw [Hook.all_none_cons, Hook.all_singleton]
      simp [addHook, hooked, hook, hnone]
  | some others => simp [addHook, hooked, hook]

/-- The hooks that are added one by one are all asked and told in their order. -/
theorem hooked_addHooks (i : Instrumented m) (hooks : List (Hook m)) :
    (i.addHooks hooks).hooked = .all (i.hooked :: hooks) := by
  induction hooks generalizing i with
  | nil => exact (Hook.all_singleton i.hooked).symm
  | cons h hooks ih =>
      have hadded : (i.addHooks (h :: hooks)).hooked = .all ((i.addHook h).hooked :: hooks) :=
        ih (i.addHook h)
      rw [hadded, hooked_addHook]
      exact Hook.all_nested [] [i.hooked, h] hooks

end Instrumented

end BoundSql
