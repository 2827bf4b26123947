import BoundSql.Proofs.Monitor.Composite

/-!
# What observers see of a call

A call of an observed connection has one trace. The hooks are asked in their order, up to the first
that refuses; a refusal is the answer, and nothing else happens. Otherwise the monitors are told, if
monitoring is on, the call is made once with the request as it is, every hook is told what came of
it, and then the monitors, a second time if the call was slow. The answer is that of the connection.
`observed_trace` says this for hooks and monitors that are made one to any depth, for every way to
ask a connection, and for all that hooks and the connection may say.

## Implementation notes

What hooks and the connection say, and how long it takes, may depend on all that happened before: a
`World` says it for every history. The observers of a world only make entries in the history, so
that the history is the trace.
-/

namespace BoundSql

open BoundSql.Calendar (Duration)

/-! ## Histories -/

/-- What happens while requests are observed by hooks `ι` and monitors `κ`. -/
inductive Event (ι κ : Type) where
  | asked (hook : ι) (ctx : Context)
  | started (monitor : κ) (ctx : Context)
  | sent (request : Request)
  | executed (request : Request)
  | told (hook : ι) (ctx : Context) (duration : Duration) (outcome : Outcome)
  | completed (monitor : κ) (ctx : Context) (duration : Duration) (outcome : Outcome)
  | slow (monitor : κ) (ctx : Context) (duration : Duration)

/-- What is said when other things have happened before. -/
structure World (ι κ : Type) where
  verdict : List (Event ι κ) → ι → Context → Verdict
  rows : List (Event ι κ) → Request → Except Error (List Row)
  affected : List (Event ι κ) → Request → Except Error Nat
  /-- How long the call took that is answered. -/
  duration : List (Event ι κ) → Duration
  /-- Whether the call that is answered took longer than a limit. -/
  isLate : List (Event ι κ) → Duration → Bool

/-- Computations in a world, which add to its history. -/
abbrev Observed (ι κ : Type) := ReaderT (World ι κ) (StateM (List (Event ι κ)))

variable {ι κ : Type}

namespace Observed

/-- What a computation gives behind a history, and the history then. -/
def after {α : Type} (x : Observed ι κ α) (w : World ι κ) (past : List (Event ι κ)) :
    α × List (Event ι κ) :=
  (x.run w).run past

/-- Makes an entry in the history. -/
def note (event : Event ι κ) : Observed ι κ PUnit := fun _ past => (⟨⟩, past ++ [event])

instance : Timed (Observed ι κ) where
  measure x := do
    let a ← x
    return (a, (← read).duration (← get))
  within limit x := do
    let a ← x
    if (← read).isLate (← get) limit then return none else return some a

variable {α β : Type} (w : World ι κ) (past : List (Event ι κ))

theorem after_pure (a : α) : (pure a : Observed ι κ α).after w past = (a, past) := rfl

theorem after_bind (x : Observed ι κ α) (f : α → Observed ι κ β) :
    (x >>= f).after w past = (f (x.after w past).1).after w (x.after w past).2 := rfl

theorem after_measure (x : Observed ι κ α) :
    (Timed.measure x).after w past =
      (((x.after w past).1, w.duration (x.after w past).2), (x.after w past).2) := rfl

theorem after_within (limit : Duration) (x : Observed ι κ α) :
    (Timed.within limit x).after w past =
      (if w.isLate (x.after w past).2 limit then none else some (x.after w past).1,
        (x.after w past).2) := by
  have hbind : (Timed.within limit x).after w past =
      (if w.isLate (x.after w past).2 limit then return none else
        return some (x.after w past).1 : Observed ι κ (Option α)).after w (x.after w past).2 := rfl
  rw [hbind]
  split <;> rfl

theorem after_forM_note {γ : Type} (event : γ → Event ι κ) (list : List γ) :
    (list.forM fun i => note (event i)).after w past = (⟨⟩, past ++ list.map event) := by
  induction list generalizing past with
  | nil => simp [List.forM_eq_forM, after_pure]
  | cons i list ih =>
      have hnote : (note (event i)).after w past = (⟨⟩, past ++ [event i]) := rfl
      rw [List.forM_eq_forM] at ih ⊢
      rw [List.forM_cons, after_bind, hnote, ih]
      simp

end Observed

/-- The hook that says what its world says and makes entries in the history. -/
def Hook.observed (hook : ι) : Hook (Observed ι κ) where
  before ctx := fun w past => (w.verdict past hook ctx, past ++ [.asked hook ctx])
  after ctx duration outcome := Observed.note (.told hook ctx duration outcome)

/-- The monitor that makes entries in the history. -/
def Monitor.observed (monitor : κ) : Monitor (Observed ι κ) where
  started ctx := Observed.note (.started monitor ctx)
  completed ctx duration outcome := Observed.note (.completed monitor ctx duration outcome)
  slow ctx duration := Observed.note (.slow monitor ctx duration)

/-- The connection that answers what its world says and makes entries in the history. -/
def Connection.observed : Connection (Observed ι κ) where
  send request := .mk fun w past => (w.rows past request, past ++ [.sent request])
  execute request := .mk fun w past => (w.affected past request, past ++ [.executed request])

/-! ## Calls -/

/-- The ways to ask a connection, by the type of what they give. -/
inductive Call : Type → Type where
  | send : Call (List Row)
  | execute : Call Nat

namespace Call
variable {α : Type}

/-- The call of a connection. -/
def of {m : Type → Type} (c : Connection m) (request : Request) : Call α → ExceptT Error m α
  | send => c.send request
  | execute => c.execute request

/-- The entry that a call makes. -/
def event (request : Request) : Call α → Event ι κ
  | send => .sent request
  | execute => .executed request

/-- What a world answers to a call. -/
def answer (w : World ι κ) (past : List (Event ι κ)) (request : Request) :
    Call α → Except Error α
  | send => w.rows past request
  | execute => w.affected past request

/-- What is reported of a call that succeeds. -/
def outcome : Call α → α → Outcome
  | send, rows => .rows rows.length
  | execute, n => .affected n

end Call

/-! ## Hooks before a call -/

section
variable (w : World ι κ) (ctx : Context)

/-- Whether hooks let a statement pass that are asked one after another. -/
def World.Passes : (past : List (Event ι κ)) → List ι → Prop
  | _, [] => True
  | past, hook :: rest =>
    w.verdict past hook ctx = .proceed ∧ World.Passes (past ++ [.asked hook ctx]) rest

/-- Whether a hook is the first of some to refuse a statement, behind others that let it pass. -/
def World.Refuses (past : List (Event ι κ)) (hooks passed : List ι) (hook : ι) (reason : String) :
    Prop :=
  passed ++ [hook] <+: hooks ∧ w.Passes ctx past passed ∧
    w.verdict (past ++ passed.map (.asked · ctx)) hook ctx = .abort reason

/-- Either all hooks let a statement pass, or one of them is the first that refuses it. -/
theorem World.passes_or_refuses (past : List (Event ι κ)) (hooks : List ι) :
    w.Passes ctx past hooks ∨
      ∃ passed hook reason, w.Refuses ctx past hooks passed hook reason := by
  induction hooks generalizing past with
  | nil => exact .inl trivial
  | cons hook hooks ih =>
      cases hverdict : w.verdict past hook ctx with
      | abort reason => exact .inr ⟨[], hook, reason, by simp, trivial, by simpa using hverdict⟩
      | proceed =>
          obtain hpasses | ⟨passed, other, reason, hleaves, hpassed, hrefused⟩ :=
            ih (past ++ [.asked hook ctx])
          · exact .inl ⟨hverdict, hpasses⟩
          · exact .inr ⟨hook :: passed, other, reason, by simpa using hleaves,
              ⟨hverdict, hpassed⟩, by simpa using hrefused⟩

end

variable {w : World ι κ} {ctx : Context} {past : List (Event ι κ)} {hooks : List ι}

theorem after_before_observed (hook : ι) :
    ((Hook.observed hook).before ctx).after w past =
      (w.verdict past hook ctx, past ++ [.asked hook ctx]) := rfl

/-- Hooks that let a statement pass are all asked. -/
theorem after_before_of_passes (h : w.Passes ctx past hooks) :
    ((Hook.all (hooks.map Hook.observed)).before ctx).after w past =
      (.proceed, past ++ hooks.map (.asked · ctx)) := by
  induction hooks generalizing past with
  | nil => simp [Hook.all, Hook.firstAbort, Observed.after_pure]
  | cons hook hooks ih =>
      obtain ⟨hverdict, hrest⟩ := h
      have hbehind := ih hrest
      simp only [Hook.all] at hbehind ⊢
      rw [List.map_cons, Hook.firstAbort_cons, Observed.after_bind, after_before_observed, hverdict]
      simpa [Verdict.orElse] using hbehind

/-- Behind the first hook that refuses a statement none is asked. -/
theorem after_before_of_refuses {passed : List ι} {hook : ι} {reason : String}
    (h : w.Refuses ctx past hooks passed hook reason) :
    ((Hook.all (hooks.map Hook.observed)).before ctx).after w past =
      (.abort reason, past ++ (passed ++ [hook]).map (.asked · ctx)) := by
  obtain ⟨⟨rest, rfl⟩, hpassed, hrefused⟩ := h
  have hfront := after_before_of_passes hpassed
  simp only [Hook.all] at hfront ⊢
  rw [List.append_assoc, List.map_append, Hook.firstAbort_append, Observed.after_bind, hfront,
    List.singleton_append, List.map_cons, Hook.firstAbort_cons]
  simp only [Verdict.orElse, Observed.after_bind, after_before_observed, hrefused,
    Observed.after_pure]
  simp

/-! ## A call -/

/-- The connection of a world, with hooks that are added one by one and a monitor. -/
def Instrumented.observed (hooks : List (Observers ι)) (monitors : Observers κ) (watch : Watch) :
    Instrumented (Observed ι κ) :=
  addHooks { inner := .observed, monitor := monitors.monitor Monitor.observed, watch }
    (hooks.map (Observers.hook Hook.observed))

namespace Instrumented
variable (hooks : List (Observers ι)) (monitors : Observers κ) (watch : Watch)

theorem addHooks_eq {m : Type → Type} [Monad m] (i : Instrumented m) (hooks : List (Hook m)) :
    i.addHooks hooks = { i with hook := (i.addHooks hooks).hook } := by
  induction hooks generalizing i with
  | nil => rfl
  | cons h hooks ih => exact ih (i.addHook h)

theorem inner_observed : (observed hooks monitors watch).inner = .observed :=
  congrArg inner (addHooks_eq _ _)

theorem watch_observed : (observed hooks monitors watch).watch = watch :=
  congrArg Instrumented.watch (addHooks_eq _ _)

theorem monitor_observed :
    (observed hooks monitors watch).monitor = .all (monitors.leaves.map Monitor.observed) :=
  (congrArg monitor (addHooks_eq _ _)).trans (monitors.monitor_eq _)

theorem hooked_observed :
    (observed hooks monitors watch).hooked =
      .all ((Observers.leavesOf hooks).map Hook.observed) := by
  rw [observed, hooked_addHooks, ← Observers.all_hook_eq]
  exact Hook.all_none_cons _

/-- All monitors are told something, if monitoring is on. -/
theorem after_tell (told : Monitor (Observed ι κ) → Observed ι κ PUnit) (event : κ → Event ι κ)
    (hall : ∀ list, told (.all list) = list.forM told)
    (hone : ∀ i, told (Monitor.observed i) = Observed.note (event i)) (w : World ι κ)
    (past : List (Event ι κ)) :
    ((observed hooks monitors watch).tell told).after w past =
      (⟨⟩, past ++ if watch.monitoring then monitors.leaves.map event else []) := by
  rw [tell, watch_observed, monitor_observed]
  split
  · rw [hall, List.forM_eq_forM, List.forM_map]
    simp only [hone]
    exact Observed.after_forM_note w past event monitors.leaves
  · simp [Observed.after_pure]

/-- Of what came of a call all hooks are told, and then all monitors if monitoring is on, twice if
the call was slow. -/
theorem after_report (ctx : Context) (duration : Duration) (outcome : Outcome) (w : World ι κ)
    (past : List (Event ι κ)) :
    ((observed hooks monitors watch).report ctx duration outcome).after w past =
      (⟨⟩, past ++ (Observers.leavesOf hooks).map (.told · ctx duration outcome) ++
        if watch.monitoring then
          monitors.leaves.map (.completed · ctx duration outcome) ++
            if watch.slow.any (· < duration) then monitors.leaves.map (.slow · ctx duration) else []
        else []) := by
  have hhooked : ((observed hooks monitors watch).hooked.after ctx duration outcome).after w past =
      (⟨⟩, past ++ (Observers.leavesOf hooks).map (.told · ctx duration outcome)) := by
    rw [hooked_observed]
    simp only [Hook.all, List.forM_eq_forM, List.forM_map]
    exact Observed.after_forM_note w past (.told · ctx duration outcome) _
  have hcompleted := after_tell hooks monitors watch
    (fun monitor => monitor.completed ctx duration outcome) (.completed · ctx duration outcome)
    (fun _ => rfl) (fun _ => rfl) w
  have hslow := after_tell hooks monitors watch (fun monitor => monitor.slow ctx duration)
    (.slow · ctx duration) (fun _ => rfl) (fun _ => rfl) w
  rw [report, Observed.after_bind, hhooked, Observed.after_bind, hcompleted, isSlow, watch_observed]
  split
  case isTrue hlate =>
    rw [hslow]
    split <;> simp
  case isFalse =>
    rw [Observed.after_pure]
    split <;> simp

/-- A call that is in time is made as it is. -/
theorem after_limited {α : Type} (call : Call α) (request : Request) {w : World ι κ}
    (htime : ∀ past limit, watch.limit = some limit → w.isLate past limit = false)
    (past : List (Event ι κ)) :
    ((observed hooks monitors watch).limited (call.of .observed request)).after w past =
      (call.answer w past request, past ++ [call.event request]) := by
  have hcall : (call.of (.observed : Connection (Observed ι κ)) request).run.after w past =
      (call.answer w past request, past ++ [call.event request]) := by
    cases call <;> rfl
  rw [limited, watch_observed]
  cases hlimit : watch.limit with
  | none => exact hcall
  | some limit =>
      simp only [Observed.after_bind, Observed.after_pure, Observed.after_within, hcall,
        htime _ limit hlimit]
      rfl

end Instrumented

/-- A call of an observed connection has this trace and this answer. If a hook is the first to
refuse the statement, nothing happens but what is asked of the hooks through that one. If all let it
pass, the call is made once, all are told what came of it, and the answer is that of the connection.
-/
theorem observed_trace (w : World ι κ) (hooks : List (Observers ι)) (monitors : Observers κ)
    (watch : Watch) {α : Type} (call : Call α) (request : Request) (past : List (Event ι κ))
    (htime : ∀ past limit, watch.limit = some limit → w.isLate past limit = false) :
    let ctx := Context.ofRequest request
    let leaves := Observers.leavesOf hooks
    let seen := Observed.after
      (call.of (Instrumented.observed hooks monitors watch).connection request).run w past
    (w.Passes ctx past leaves ∨
      ∃ passed hook reason, w.Refuses ctx past leaves passed hook reason) ∧
    (∀ passed hook reason, w.Refuses ctx past leaves passed hook reason →
      seen = (.error (.validation (.hook reason)),
        past ++ (passed ++ [hook]).map (.asked · ctx)) ∧
      (Refusal.hook reason).message = "Query aborted by hook: " ++ reason) ∧
    (w.Passes ctx past leaves →
      let before := past ++ leaves.map (.asked · ctx) ++
        if watch.monitoring then monitors.leaves.map (.started · ctx) else []
      let answer := call.answer w before request
      let called := before ++ [call.event request]
      let duration := w.duration called
      let outcome := match answer with
        | .ok a => call.outcome a
        | .error e => .ofError e
      seen = (answer, called ++ leaves.map (.told · ctx duration outcome) ++
        if watch.monitoring then
          monitors.leaves.map (.completed · ctx duration outcome) ++
            if watch.slow.any (· < duration) then monitors.leaves.map (.slow · ctx duration) else []
        else [])) := by
  intro ctx leaves seen
  have hseen : seen = Observed.after ((Instrumented.observed hooks monitors watch).observe request
      call.outcome (call.of (.observed : Connection (Observed ι κ)) request)).run w past := by
    rw [← Instrumented.inner_observed hooks monitors watch]
    cases call <;> rfl
  rw [Instrumented.observe, ExceptT.run_mk, Observed.after_bind,
    Instrumented.hooked_observed] at hseen
  refine ⟨w.passes_or_refuses ctx past leaves, ?refused, ?passed⟩
  case refused =>
    intro passed hook reason hrefused
    rw [hseen, after_before_of_refuses hrefused]
    exact ⟨rfl, rfl⟩
  case passed =>
    intro hpasses before answer called duration outcome
    have houtcome : ∀ given, Outcome.ofAnswer call.outcome given = match given with
        | .ok a => call.outcome a
        | .error e => .ofError e := by
      intro given
      cases given <;> rfl
    have hstarted := Instrumented.after_tell hooks monitors watch
      (fun monitor => monitor.started ctx) (.started · ctx) (fun _ => rfl) (fun _ => rfl) w
      (past ++ leaves.map (.asked · ctx))
    have hcalled := Instrumented.after_limited hooks monitors watch call request htime before
    have hreport := Instrumented.after_report hooks monitors watch ctx duration outcome w called
    rw [hseen, after_before_of_passes hpasses, Observed.after_bind, hstarted, Observed.after_bind,
      Observed.after_measure, hcalled, Observed.after_bind, houtcome, hreport]
    rfl

/-- Calls that take seven nanoseconds. The hook 1 refuses what comes behind another statement. -/
def secondRefused : World Nat Char where
  verdict past hook _ := if hook = 1 ∧ 1 < past.length then .abort "busy" else .proceed
  rows _ _ := .ok [⟨[("id", .int 1)]⟩]
  affected _ _ := .ok 1
  duration _ := ⟨7⟩
  isLate _ limit := limit.nanos < 7

theorem observed_trace_secondRefused :
    let connection := (Instrumented.observed
      [.several [.one 0, .several [.one 1, .several []]], .one 2] (.several [.one 'a', .one 'b'])
      { limit := some ⟨9⟩, slow := some ⟨5⟩, monitoring := true }).connection
    let request : Request := ⟨some "users", ⟨"SELECT 1", []⟩⟩
    let ctx := Context.ofRequest request
    let trace : List (Event Nat Char) := [.asked 0 ctx, .asked 1 ctx, .asked 2 ctx,
      .started 'a' ctx, .started 'b' ctx, .sent request,
      .told 0 ctx ⟨7⟩ (.rows 1), .told 1 ctx ⟨7⟩ (.rows 1), .told 2 ctx ⟨7⟩ (.rows 1),
      .completed 'a' ctx ⟨7⟩ (.rows 1), .completed 'b' ctx ⟨7⟩ (.rows 1),
      .slow 'a' ctx ⟨7⟩, .slow 'b' ctx ⟨7⟩]
    Observed.after (connection.send request).run secondRefused [] =
        (.ok [⟨[("id", .int 1)]⟩], trace) ∧
      Observed.after (connection.execute request).run secondRefused trace =
        (.error (.validation (.hook "busy")), trace ++ [.asked 0 ctx, .asked 1 ctx]) := by
  intro connection request ctx trace
  have htime : ∀ (past : List (Event Nat Char)) (limit : Duration),
      some (⟨9⟩ : Duration) = some limit → secondRefused.isLate past limit = false := by
    rintro past limit ⟨⟩
    rfl
  have htrace {α : Type} (call : Call α) := observed_trace secondRefused
    [.several [.one 0, .several [.one 1, .several []]], .one 2] (.several [.one 'a', .one 'b'])
    { limit := some ⟨9⟩, slow := some ⟨5⟩, monitoring := true } call request
  constructor
  · obtain ⟨-, -, hpasses⟩ := htrace .send [] htime
    exact hpasses ⟨rfl, rfl, rfl, trivial⟩
  · obtain ⟨-, hrefuses, -⟩ := htrace .execute trace htime
    have hfront : [0] ++ [1] <+: [0, 1, 2] := ⟨[2], rfl⟩
    exact (hrefuses [0] 1 "busy" ⟨hfront, ⟨rfl, trivial⟩, rfl⟩).1

end BoundSql
