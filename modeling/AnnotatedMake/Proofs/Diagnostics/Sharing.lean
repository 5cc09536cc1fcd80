import AnnotatedMake.Diagnostics.Loggers
import Mathlib.Data.List.Nodup

namespace AnnotatedMake.Loggers

variable {loggers : Loggers} {logger : Logger} {count : Nat}

/-- What is done with loggers. Setting up may find nothing that it can open. -/
inductive Call where
  | setUp (force : Bool) (opened : Option (Bool → Sink))
  | setDebug (debug : Bool)
  | ask (name : String) (level : Option Int)

def Call.isSetUp : Call → Bool
  | .setUp .. => true
  | _ => false

def next (loggers : Loggers) : Call → Loggers
  | .setUp force opened => loggers.setUpFor force opened
  | .setDebug debug => loggers.setDebug debug
  | .ask name level => loggers.ask name level

def after (loggers : Loggers) (calls : List Call) : Loggers := calls.foldl next loggers

/-- Calls are made in turn. -/
theorem after_append (loggers : Loggers) (first second : List Call) :
    loggers.after (first ++ second) = (loggers.after first).after second :=
  List.foldl_append

/-- A logger as it is right after it was asked for with a level, or without one. -/
structure IsCurrent (loggers : Loggers) (level : Option Int) (logger : Logger) : Prop where
  handlers : logger.handlers = loggers.shared
  once : logger.handlers.Nodup
  apart : logger.propagates = false
  level : logger.level =
    level.getD (if loggers.debug then Level.debug.number else Level.warning.number)

/-- A handler that is shared, or that a logger still has. -/
def HasHandler (loggers : Loggers) (handler : Handler) : Prop :=
  handler ∈ loggers.shared ∨
    ∃ name logger, loggers.known.get? name = some logger ∧ handler ∈ logger.handlers

/-- At most one handler is shared, none is held twice, and all are numbered in order. -/
structure IsOrderly (loggers : Loggers) : Prop where
  single : loggers.shared.length ≤ 1
  once : ∀ name logger, loggers.known.get? name = some logger → logger.handlers.Nodup
  numbered : ∀ handler, loggers.HasHandler handler → handler.number < loggers.made

/-- Loggers are orderly before the first call. -/
theorem isOrderly_start (debug : Bool) : IsOrderly { debug } where
  single := Nat.zero_le 1
  once _ _ known := nomatch known
  numbered _ := by
    rintro (shared | ⟨_, _, known, _⟩)
    · exact absurd shared List.not_mem_nil
    · cases known

/-- A logger that has no handler twice gets the shared handlers, whichever it had before. -/
theorem perm_refreshed (once : logger.handlers.Nodup) (shared : loggers.shared.Nodup) :
    (loggers.refreshed logger).handlers.Perm loggers.shared := by
  let kept := logger.handlers.filter loggers.shared.elem
  have apart : kept.Disjoint (loggers.shared.filter fun handler => !kept.elem handler) := by
    intro handler inKept added
    simp [inKept] at added
  refine (List.perm_ext_iff_of_nodup ?_ shared).2 fun handler => ?_
  · exact (once.filter _).append (shared.filter _) apart
  · by_cases inShared : handler ∈ loggers.shared <;>
      by_cases inLogger : handler ∈ logger.handlers <;>
      simp [refreshed, inShared, inLogger]

/-- Asking for a logger changes that logger only. -/
theorem get?_ask (loggers : Loggers) (name : String) (level : Option Int) (other : String) :
    (loggers.ask name level).known.get? other =
      if other = fullName name then some (loggers.asked name level)
      else loggers.known.get? other :=
  OrderedMap.get?_insert _ _ _ _

section Orderly

variable (orderly : loggers.IsOrderly)
include orderly

/-- Orderly loggers share no handler or one. -/
theorem IsOrderly.shared_cases :
    loggers.shared = [] ∨ ∃ handler, loggers.shared = [handler] := by
  rcases Nat.le_one_iff_eq_zero_or_eq_one.1 orderly.single with none | one
  · exact .inl (List.length_eq_zero_iff.1 none)
  · exact .inr (List.length_eq_one_iff.1 one)

/-- No handler is shared twice. -/
theorem IsOrderly.nodup_shared : loggers.shared.Nodup := by
  rcases orderly.shared_cases with none | ⟨handler, one⟩
  · rw [none]
    exact List.nodup_nil
  · rw [one]
    exact List.nodup_singleton handler

/-- A logger that is asked for has the shared handlers. -/
theorem IsOrderly.handlers_asked (name : String) (level : Option Int) :
    (loggers.asked name level).handlers = loggers.shared := by
  have once : ((loggers.known.get? (fullName name)).getD {}).handlers.Nodup := by
    cases found : loggers.known.get? (fullName name) with
    | none => exact List.nodup_nil
    | some logger => exact orderly.once _ logger found
  have perm : (loggers.asked name level).handlers.Perm loggers.shared :=
    perm_refreshed once orderly.nodup_shared
  rcases orderly.shared_cases with none | ⟨handler, one⟩
  · rw [none] at perm ⊢
    exact perm.eq_nil
  · rw [one] at perm ⊢
    exact List.perm_singleton.1 perm

/-- Asking for a logger keeps the order. -/
theorem IsOrderly.ask (name : String) (level : Option Int) :
    (loggers.ask name level).IsOrderly where
  single := orderly.single
  once other logger known := by
    rw [get?_ask] at known
    split at known
    · obtain rfl := Option.some.inj known
      rw [orderly.handlers_asked]
      exact orderly.nodup_shared
    · exact orderly.once other logger known
  numbered handler := by
    rintro (shared | ⟨other, logger, known, member⟩)
    · exact orderly.numbered handler (.inl shared)
    · rw [get?_ask] at known
      split at known
      · obtain rfl := Option.some.inj known
        rw [orderly.handlers_asked] at member
        exact orderly.numbered handler (.inl member)
      · exact orderly.numbered handler (.inr ⟨other, logger, known, member⟩)

/-- Dropping the handlers keeps the order. -/
theorem IsOrderly.emptied (force : Bool) : (loggers.emptied force).IsOrderly where
  single := Nat.zero_le 1
  once := orderly.once
  numbered handler := by
    rintro (shared | kept)
    · exact absurd shared List.not_mem_nil
    · exact orderly.numbered handler (.inr kept)

/-- Setting up keeps the order. -/
theorem IsOrderly.setUp (force : Bool) (sinkFor : Bool → Sink) :
    (loggers.setUp force sinkFor).IsOrderly where
  single := Nat.le_refl 1
  once := orderly.once
  numbered handler := by
    rintro (shared | kept)
    · obtain rfl := List.mem_singleton.1 shared
      exact Nat.lt_succ_self loggers.made
    · exact Nat.lt_succ_of_lt (orderly.numbered handler (.inr kept))

/-- Every call keeps the loggers orderly. -/
theorem IsOrderly.next (call : Call) : (loggers.next call).IsOrderly := by
  cases call with
  | setUp force opened =>
      cases opened with
      | none => exact orderly.emptied force
      | some sinkFor => exact orderly.setUp force sinkFor
  | setDebug debug => exact ⟨orderly.single, orderly.once, orderly.numbered⟩
  | ask name level => exact orderly.ask name level

end Orderly

/-- Loggers are orderly after any calls. -/
theorem isOrderly_after (orderly : loggers.IsOrderly) (calls : List Call) :
    (loggers.after calls).IsOrderly := by
  induction calls generalizing loggers with
  | nil => exact orderly
  | cons call rest ih => exact ih (orderly.next call)

/-- The handlers that are shared were made when there were already so many. -/
structure IsSince (loggers : Loggers) (count : Nat) : Prop where
  reached : count ≤ loggers.made
  numbered : ∀ handler ∈ loggers.shared, count ≤ handler.number

/-- A logger without handlers has none from before. -/
theorem isSince_emptied (reached : count ≤ loggers.made) (force : Bool) :
    (loggers.emptied force).IsSince count where
  reached := reached
  numbered _ shared := absurd shared List.not_mem_nil

/-- Setting up leaves handlers made since. -/
theorem isSince_setUpFor (reached : count ≤ loggers.made) (force : Bool)
    (opened : Option (Bool → Sink)) : (loggers.setUpFor force opened).IsSince count := by
  cases opened with
  | none => exact isSince_emptied reached force
  | some sinkFor =>
      refine ⟨Nat.le_succ_of_le reached, fun handler shared => ?_⟩
      obtain rfl := List.mem_singleton.1 shared
      exact reached

/-- One call leaves handlers made since. -/
theorem IsSince.next (since : loggers.IsSince count) (call : Call) :
    (loggers.next call).IsSince count := by
  cases call with
  | setUp force opened => exact isSince_setUpFor since.reached force opened
  | setDebug debug => exact ⟨since.reached, since.numbered⟩
  | ask name level => exact ⟨since.reached, since.numbered⟩

/-- A sequence of calls leaves handlers made since. -/
theorem IsSince.after (since : loggers.IsSince count) (calls : List Call) :
    (loggers.after calls).IsSince count := by
  induction calls generalizing loggers with
  | nil => exact since
  | cons call rest ih => exact ih (since.next call)

/-- What is shared stays until handlers are set up anew. -/
theorem shared_after {calls : List Call} (quiet : ∀ call ∈ calls, call.isSetUp = false) :
    (loggers.after calls).shared = loggers.shared := by
  induction calls generalizing loggers with
  | nil => rfl
  | cons call rest ih =>
      have later := @ih (loggers.next call) fun other member => quiet other (.tail call member)
      refine later.trans ?_
      cases call with
      | setUp force opened => cases quiet (.setUp force opened) List.mem_cons_self
      | setDebug debug => rfl
      | ask name level => rfl

/-- The sink shared after setting up is the one opened. -/
theorem sinks_setUpFor (loggers : Loggers) (force : Bool) (opened : Option (Bool → Sink)) :
    (loggers.setUpFor force opened).shared.map Handler.sink =
      (opened.map fun sinkFor => sinkFor (loggers.debug || force)).toList := by
  cases opened <;> rfl

/-- No handler from before handlers were set up anew is shared afterwards. -/
theorem IsOrderly.not_hasHandler (orderly : loggers.IsOrderly) (force : Bool)
    (opened : Option (Bool → Sink)) (later : List Call) {handler : Handler}
    (shared : handler ∈ (loggers.after (.setUp force opened :: later)).shared) :
    ¬ loggers.HasHandler handler := by
  have since := (isSince_setUpFor (Nat.le_refl loggers.made) force opened).after later
  intro had
  exact absurd (orderly.numbered handler had) (Nat.not_lt.2 (since.numbered handler shared))

/-- After a set-up what is shared is the new handler, until the next set-up. -/
theorem IsOrderly.shared_since (orderly : loggers.IsOrderly) (force : Bool)
    (opened : Option (Bool → Sink)) (later : List Call) :
    let shared := (loggers.after (.setUp force opened :: later)).shared
    (∀ handler ∈ shared, ¬ loggers.HasHandler handler) ∧
    ((∀ call ∈ later, call.isSetUp = false) → shared.map Handler.sink =
      (opened.map fun sinkFor => sinkFor (loggers.debug || force)).toList) := by
  intro shared
  refine ⟨fun _ => orderly.not_hasHandler force opened later, fun quiet => ?_⟩
  have stays : shared = (loggers.setUpFor force opened).shared := shared_after quiet
  rw [stays, sinks_setUpFor]

/-- A name that does not begin with that of the main logger stands for one below it. -/
theorem fullName_of_unqualified {name : String} (differs : name ≠ mainLogger)
    (unqualified : startsText (mainLogger ++ ".") name = false) :
    fullName name = mainLogger ++ "." ++ name := by
  simp [fullName, differs, unqualified]

/-- A qualified name is its own full name. -/
theorem fullName_qualified (name : String) :
    fullName (mainLogger ++ "." ++ name) = mainLogger ++ "." ++ name := by
  have starts : startsText (mainLogger ++ ".") (mainLogger ++ "." ++ name) = true := by
    rw [startsText, Text.beginsWith, Text.after?_eq_some_iff.2 String.toList_append]
    rfl
  rw [fullName, starts, Bool.or_true, if_pos rfl]

/-- The handlers that a diagnostic of a level comes to when it is sent to the logger of a name. -/
def receivers (loggers : Loggers) (name : String) (level : Int) : List Handler :=
  match loggers.known.get? (fullName name) with
  | some logger =>
    if 0 < level && loggers.effectiveLevel (fullName name) logger ≤ level then logger.handlers
    else []
  | none => []

/-- What is written to the screen is what the handlers write that a diagnostic comes to. -/
theorem written_eq {name : String} (known : loggers.known.get? (fullName name) = some logger)
    (some : logger.handlers ≠ []) (sent : Int) (text : String) :
    loggers.written name sent text = String.join ((loggers.receivers name sent).map
      (screenText { level := sent, logger := fullName name, text })) := by
  have handled : logger.handlers.isEmpty = false := by simpa using some
  rw [receivers, written, known]
  dsimp only
  split
  · rw [writtenBy, handled]
    rfl
  · rfl

/-- A diagnostic comes to the shared handlers when the level of the logger lets it through. -/
theorem IsOrderly.receivers_ask (orderly : loggers.IsOrderly) (name : String)
    (level : Option Int) (sent : Int) : (loggers.ask name level).receivers name sent =
      if 0 < sent ∧ (loggers.ask name level).effectiveLevel (fullName name)
        (loggers.asked name level) ≤ sent then loggers.shared else [] := by
  rw [receivers, get?_ask, if_pos rfl]
  dsimp only
  rw [orderly.handlers_asked]
  simp only [Bool.and_eq_true, decide_eq_true_eq]

/-- A logger asked for reaches each shared handler at most once. -/
theorem IsOrderly.count_receivers_ask (orderly : loggers.IsOrderly) (name : String)
    (level : Option Int) (sent : Int) (handler : Handler) :
    ((loggers.ask name level).receivers name sent).count handler =
      if handler ∈ loggers.shared ∧ 0 < sent ∧ (loggers.ask name level).effectiveLevel
        (fullName name) (loggers.asked name level) ≤ sent then 1 else 0 := by
  rw [orderly.receivers_ask]
  split
  · rename_i passes
    rw [orderly.nodup_shared.count]
    exact if_congr (and_iff_left passes).symm rfl rfl
  · rename_i stays
    rw [List.count_nil, if_neg fun both => stays both.2]

/-- Whatever was done before, a diagnostic of a logger comes to each shared handler at most once. -/
theorem asked_writes_once (debug : Bool) (calls : List Call) (name : String)
    (level : Option Int) :
    let start : Loggers := { debug }
    let loggers := start.after calls
    let logger := loggers.asked name level
    let asked := loggers.ask name level
    asked.known.get? (fullName name) = some logger ∧ loggers.IsCurrent level logger ∧
    (∀ earlier force opened later, calls = earlier ++ .setUp force opened :: later →
      (∀ handler ∈ logger.handlers, ¬ (start.after earlier).HasHandler handler) ∧
      ((∀ call ∈ later, call.isSetUp = false) → logger.handlers.map Handler.sink =
        (opened.map fun sinkFor => sinkFor ((start.after earlier).debug || force)).toList)) ∧
    (∀ own, own ≠ mainLogger → startsText (mainLogger ++ ".") own = false →
      fullName own = mainLogger ++ "." ++ own ∧
      fullName (mainLogger ++ "." ++ own) = mainLogger ++ "." ++ own) ∧
    (logger.level ≠ 0 → asked.effectiveLevel (fullName name) logger = logger.level) ∧
    (∀ sent handler, (asked.receivers name sent).count handler =
      if handler ∈ loggers.shared ∧ 0 < sent ∧
        asked.effectiveLevel (fullName name) logger ≤ sent then 1 else 0) ∧
    (loggers.shared ≠ [] → ∀ sent text, asked.written name sent text =
      String.join ((asked.receivers name sent).map
        (screenText { level := sent, logger := fullName name, text }))) := by
  intro start loggers logger asked
  have orderly : loggers.IsOrderly := isOrderly_after (isOrderly_start debug) calls
  have handlers : logger.handlers = loggers.shared := orderly.handlers_asked name level
  have known : asked.known.get? (fullName name) = some logger := by
    rw [get?_ask, if_pos rfl]
  refine ⟨known, ⟨handlers, handlers ▸ orderly.nodup_shared, rfl, rfl⟩, ?_, ?_, ?_, ?_, ?_⟩
  · intro earlier force opened later cut
    have whole : loggers = (start.after earlier).after (.setUp force opened :: later) := by
      rw [← after_append, ← cut]
    have before := isOrderly_after (isOrderly_start debug) earlier
    rw [handlers, whole]
    exact before.shared_since force opened later
  · exact fun own differs unqualified =>
      ⟨fullName_of_unqualified differs unqualified, fullName_qualified own⟩
  · exact fun given => if_neg given
  · exact orderly.count_receivers_ask name level
  · exact fun shared => written_eq known (handlers ▸ shared)

/-- A logger of level zero lets through what those above it do, and nothing without a level. -/
theorem asked_at_zero_drops :
    let loggers := ({} : Loggers).setUp false (screen false)
    let zero := loggers.ask "cache" (some 0)
    let negative := loggers.ask "cache" (some (-5))
    loggers.shared.length = 1 ∧
      (loggers.asked "cache" (some 0)).level ≤ Level.debug.number ∧
      zero.receivers "cache" Level.debug.number = [] ∧
      zero.written "cache" Level.debug.number "text" = "" ∧
      (loggers.asked "cache" (some (-5))).level ≤ -3 ∧
      negative.receivers "cache" (-3) = [] ∧ negative.written "cache" (-3) "text" = "" := by
  decide

end AnnotatedMake.Loggers
