import NamedQuery.Config.Environment
import NamedQuery.Store.Configured
import NamedQuery.Proofs.Run.Exact
import NamedQuery.Proofs.Method.PropertyText

/-!
# What a console writes

A console has a least level and writes the entries that are at least as severe. The level comes from
the environment, as a text in any case, and a text is taken for a level by asking a table of the
levels whether it has the name. Two of the names that every table carries have no capital in them,
so they are still such names after a text was put in lower case.

* `Logger.logAll`, `Logger.KeepsTo` — some calls of a logger in a row, and what they write if the
  logger keeps to a level;
* `Logger.console_does` — what a console writes, whatever its threshold is;
* `LogLevel.inherited_lower_iff` — which texts in lower case are names that every table carries;
* `Environment.logLevel?_eq_some_iff` — which level an environment gives;
* `Config.console_keeps_iff` — the console of an environment keeps to the level that the environment
  gives, or else to `info`, exactly if the variable does not spell one of the two names. With one of
  them everything is written.
-/

namespace NamedQuery

/-! ### Texts in lower case -/

namespace Text

variable {c d : Char}

theorem isCapital_ofNat {n : Nat} (h : 90 < n) : isCapital (Char.ofNat n) = false := by
  by_cases hvalid : n.isValidChar
  · have hbound : ¬ (Char.ofNat n ≤ 'Z') := by
      rw [Char.ofNat, dif_pos hvalid]
      exact fun hle => absurd (UInt32.le_iff_toNat_le.mp (Char.le_def.mp hle)) (Nat.not_le.mpr h)
    simp [isCapital, hbound]
  · -- what is no character is replaced by the first one
    rw [Char.ofNat, dif_neg hvalid]
    decide

/-- The capitals stand in front of all small forms, and every one of them has a small form. -/
theorem isCapital_of_mem_lowerCase (h : d ∈ lowerCase c) : isCapital d = false := by
  unfold lowerCase at h
  split at h
  · -- ASCII capitals are moved behind the capitals
    next hcapital =>
    have hrange : 'A' ≤ c ∧ c ≤ 'Z' := by simpa [isCapital] using hcapital
    have hfirst : 65 ≤ c.toNat := UInt32.le_iff_toNat_le.mp (Char.le_def.mp hrange.1)
    obtain rfl := List.mem_singleton.mp h
    exact isCapital_ofNat (by omega)
  · next hcapital =>
    have hself : isCapital c = false := by simpa using hcapital
    -- a character without a small form stays, and the small forms are not capitals
    split at h
    · exact List.mem_singleton.mp h ▸ hself
    · split at h
      · rcases List.mem_pair.mp h with rfl | rfl <;> decide
      · split at h
        · next range hfound =>
          have hcovers : range.covers c.toNat = true :=
            List.find?_some (p := (CaseRange.covers · c.toNat)) hfound
          have hbound := underscore_lt_of_covers (List.mem_of_find?_eq_some hfound) hcovers
          obtain rfl := List.mem_singleton.mp h
          exact isCapital_ofNat (by omega)
        · exact List.mem_singleton.mp h ▸ hself

theorem isCapital_of_mem_lower {text : String} (h : d ∈ (lower text).toList) :
    isCapital d = false := by
  rw [lower, String.toList_ofList] at h
  obtain ⟨c, -, hd⟩ := List.mem_flatMap.mp h
  exact isCapital_of_mem_lowerCase hd

end Text

/-! ### Names of levels -/

namespace LogLevel

variable {name : String} {level : LogLevel}

theorem ofName?_name (level : LogLevel) : ofName? level.name = some level := by
  cases level <;> decide

theorem severity_injective {level level' : LogLevel} (h : level.severity = level'.severity) :
    level = level' := by
  cases level <;> cases level' <;> first | rfl | exact absurd h (by decide)

theorem ofName?_eq_some_iff : ofName? name = some level ↔ level.name = name := by
  refine ⟨fun h => ?_, fun h => h ▸ ofName?_name level⟩
  simpa using List.find?_some h

/-- The names that every table carries and that have no capital in them. -/
def smallInherited : List String := ["constructor", "__proto__"]

/-- The other names that every table carries have a capital in them, and no text in lower case
has. -/
theorem inherited_lower_iff {text : String} :
    isInherited (Text.lower text) = true ↔ Text.lower text ∈ smallInherited := by
  -- the inherited names with a capital cannot be the lower case of anything
  have hnames : ∀ name ∈ inheritedNames,
      name ∈ smallInherited ∨ name.toList.any Text.isCapital = true := by decide
  have hinherited : ∀ name ∈ smallInherited, isInherited name = true := by decide
  refine ⟨fun h => (hnames _ (by simpa [isInherited] using h)).resolve_right fun hcapital => ?_,
    hinherited _⟩
  obtain ⟨d, hd, hd'⟩ := List.any_eq_true.mp hcapital
  exact absurd hd' (by simp [Text.isCapital_of_mem_lower hd])

/-- Neither of them is the name of a level. -/
theorem name_notMem_smallInherited (level : LogLevel) : level.name ∉ smallInherited := by
  cases level <;> decide

theorem isRecognised_lower_iff {text : String} :
    isRecognised (Text.lower text) = true ↔
      (∃ level : LogLevel, level.name = Text.lower text) ∨ Text.lower text ∈ smallInherited := by
  simp only [isRecognised, Bool.or_eq_true, Option.isSome_iff_exists, ofName?_eq_some_iff,
    inherited_lower_iff]

end LogLevel

/-- **The level of an environment.** It is what the variable says in lower case, if that is the name
of a level or one of the two names that every table carries. -/
theorem Environment.logLevel?_eq_some_iff {env : Environment} {name : String} :
    env.logLevel? = some name ↔
      ∃ text, env.get? "DYNAMODB_LOG_LEVEL" = some text ∧ Text.lower text = name ∧
        ((∃ level : LogLevel, level.name = name) ∨ name ∈ LogLevel.smallInherited) := by
  have hempty : LogLevel.isRecognised (Text.lower "") = false := by decide
  simp only [logLevel?, nonEmpty?, Option.filter_eq_some_iff, Option.map_eq_some_iff]
  constructor
  · rintro ⟨⟨text, ⟨hget, -⟩, rfl⟩, hrecognised⟩
    exact ⟨text, hget, rfl, LogLevel.isRecognised_lower_iff.mp hrecognised⟩
  · rintro ⟨text, hget, rfl, hname⟩
    have hrecognised := LogLevel.isRecognised_lower_iff.mpr hname
    -- an empty variable is no level in any case
    have hne : text ≠ "" := by
      rintro rfl
      simp [hempty] at hrecognised
    exact ⟨⟨text, ⟨hget, by simpa using hne⟩, rfl⟩, hrecognised⟩

/-! ### What a logger writes -/

namespace Logger

variable {ρ : Type} {script : List (Except Thrown ρ)} {least level : LogLevel}

/-- Some calls of a logger in a row, with the outcome of each one. A call that fails does not keep
the caller from making the next one. -/
def logAll (logger : Logger) (entries : List LogEntry) :
    StateM (Session ρ) (List (Except Thrown Unit)) :=
  entries.mapM fun entry => (Run.log logger entry).run

/-- What a console says to an entry that it lets through: it cannot write one that shows an integer
in its context. -/
def outcome (threshold : Threshold) (entry : LogEntry) : Except Thrown Unit :=
  if threshold.admits entry.level && !entry.isWritable then .error Run.unwritable else .ok ()

/-- The entries that a console writes, in order. -/
def written (threshold : Threshold) (entries : List LogEntry) : List LogEntry :=
  entries.filter fun entry => threshold.admits entry.level && entry.isWritable

/-- A logger keeps to a level if it writes the entries that are at least as severe, in order, and
nothing else. Of those it refuses the ones that cannot be written. -/
def KeepsTo (logger : Logger) (least : LogLevel) : Prop :=
  ∀ (ρ : Type) (script : List (Except Thrown ρ)) (entries : List LogEntry),
    Does (logger.logAll entries) script script
      ((entries.filter fun entry =>
        decide (least.severity ≤ entry.level.severity) && entry.isWritable).map .line)
      (entries.map (outcome (.atLeast least)))

/-- One call of a console. -/
theorem log_does (threshold : Threshold) (entry : LogEntry) :
    Run.Does (Run.log (.console threshold) entry : Run ρ Unit) script script
      ((written threshold [entry]).map .line) (outcome threshold entry) := by
  unfold Run.log written outcome
  -- an entry below the threshold is dropped, and one above it may be impossible to write
  cases hadmits : threshold.admits entry.level with
  | false => simpa [hadmits] using Run.Does.pure
  | true =>
    cases hwritable : entry.isWritable with
    | false => simpa [hadmits, hwritable] using Run.Does.throw
    | true => simpa [hadmits, hwritable] using Run.Does.record (.line entry)

/-- **What a console writes.** Some calls in a row write what the threshold lets through and the
console can write. -/
theorem console_does (threshold : Threshold) (entries : List LogEntry) :
    Does (logAll (.console threshold) entries : StateM (Session ρ) _) script script
      ((written threshold entries).map .line) (entries.map (outcome threshold)) := by
  induction entries with
  | nil => exact .pure
  | cons entry entries ih =>
    have hfirst := @log_does ρ script threshold entry
    -- what a list of entries writes is what its first entry writes, and then the others
    have hsplit : written threshold (entry :: entries) =
        written threshold [entry] ++ written threshold entries :=
      List.filter_append [entry] entries
    rw [logAll, List.mapM_cons, hsplit, List.map_append]
    refine Does.bind hfirst ?_
    rw [← List.append_nil ((written threshold entries).map Event.line)]
    exact ih.bind .pure

theorem console_keepsTo (least : LogLevel) : (Logger.console (.atLeast least)).KeepsTo least :=
  fun _ _ entries => console_does (.atLeast least) entries

/-- Nothing is less severe than `trace`. -/
theorem everything_keepsTo : (Logger.console .everything).KeepsTo .trace := by
  intro ρ script entries
  -- the lowest level admits every entry, as a console without a threshold does
  have hadmits (level : LogLevel) : LogLevel.trace.severity ≤ level.severity := Nat.zero_le _
  have hdoes := @console_does ρ script .everything entries
  have houtcome : outcome .everything = outcome (.atLeast .trace) := by
    funext entry
    simp [outcome, Threshold.admits, hadmits]
  simpa [written, Threshold.admits, hadmits, houtcome] using hdoes

/-- A logger keeps to one level at most: what becomes of an entry that can be written tells whether
it is severe enough. -/
theorem KeepsTo.eq {logger : Logger} (h : logger.KeepsTo least) (h' : logger.KeepsTo level) :
    least = level := by
  -- the two tell the same entries apart, so they have the same severity
  have hseverity (entry : LogLevel) :
      least.severity ≤ entry.severity ↔ level.severity ≤ entry.severity := by
    have hwritable : ({ level := entry, message := "" } : LogEntry).isWritable = true := rfl
    have hjournal := congrArg (fun result => result.2.journal.length)
      ((h Unit [] [{ level := entry, message := "" }] {} rfl).symm.trans (h' Unit [] _ {} rfl))
    simp only [List.filter_cons, List.filter_nil, hwritable, Bool.and_true, decide_eq_true_eq]
      at hjournal
    split at hjournal <;> split at hjournal <;> first | omega | simp at hjournal
  have hle := (hseverity level).mpr (Nat.le_refl _)
  have hge := (hseverity least).mp (Nat.le_refl _)
  exact LogLevel.severity_injective (Nat.le_antisymm hle hge)

end Logger

/-! ### The console of an environment -/

/-- The level that a configuration has its console keep to: the one that it names, and `info` if it
names none. -/
def Config.GivesLevel (c : Config) (level : LogLevel) : Prop :=
  c.logLevel = some level.name ∨ c.logLevel = none ∧ level = .info

/-- Whether the variable for the level spells a name that every table carries and no level has. -/
def Environment.MisspellsLevel (env : Environment) : Prop :=
  ∃ text, env.get? "DYNAMODB_LOG_LEVEL" = some text ∧
    Text.lower text ∈ LogLevel.smallInherited

namespace Config

variable {c : Config} {level : LogLevel}

theorem GivesLevel.consoleLogger (h : c.GivesLevel level) :
    c.consoleLogger = .console (.atLeast level) := by
  have hname : c.logLevel.getD LogLevel.info.name = level.name := by
    rcases h with h | ⟨h, rfl⟩ <;> simp [h]
  rw [Config.consoleLogger, hname, Threshold.ofName, LogLevel.ofName?_name]

/-- An environment gives a level, unless its variable spells one of the other names. -/
theorem exists_givesLevel_iff {env : Environment} :
    (∃ level, (ofEnvironment env).GivesLevel level) ↔ ¬ env.MisspellsLevel := by
  have hlevel : (ofEnvironment env).logLevel = env.logLevel? := rfl
  constructor
  · -- a misspelled level is taken for a name that no level has
    rintro ⟨level, hgives⟩ ⟨text, hget, hsmall⟩
    have hsome := Environment.logLevel?_eq_some_iff.mpr ⟨text, hget, rfl, Or.inr hsmall⟩
    rcases hgives with hgives | ⟨hgives, -⟩ <;> rw [hlevel, hsome] at hgives
    · exact level.name_notMem_smallInherited (Option.some.inj hgives ▸ hsmall)
    · exact absurd hgives (by simp)
  · -- a text that is recognised is a level or one of the small inherited names
    intro hspelled
    cases hgiven : env.logLevel? with
    | none => exact ⟨.info, Or.inr ⟨hlevel.trans hgiven, rfl⟩⟩
    | some name =>
      obtain ⟨text, hget, rfl, ⟨level, hname⟩ | hsmall⟩ :=
        Environment.logLevel?_eq_some_iff.mp hgiven
      · exact ⟨level, Or.inl (hlevel.trans (hname ▸ hgiven))⟩
      · exact absurd ⟨text, hget, hsmall⟩ hspelled

theorem consoleLogger_of_misspellsLevel {env : Environment} (h : env.MisspellsLevel) :
    (ofEnvironment env).consoleLogger = .console .everything := by
  obtain ⟨text, hget, hsmall⟩ := h
  have hsome : (ofEnvironment env).logLevel = some (Text.lower text) :=
    Environment.logLevel?_eq_some_iff.mpr ⟨text, hget, rfl, Or.inr hsmall⟩
  -- an inherited name is no name of a level
  have hnone : LogLevel.ofName? (Text.lower text) = none := by
    refine Option.eq_none_iff_forall_ne_some.mpr fun level hlevel => ?_
    exact level.name_notMem_smallInherited (LogLevel.ofName?_eq_some_iff.mp hlevel ▸ hsmall)
  rw [Config.consoleLogger, hsome, Option.getD_some, Threshold.ofName, hnone]

/-- **What the console of an environment keeps to.** The environment gives a level or leaves it at
`info`, and its console keeps to that level, exactly if the variable for the level does not spell
`constructor` or `__proto__` in any case. If it does, the console lets everything through, which no
level but `trace` does. -/
theorem console_keeps_iff (env : Environment) :
    ((∃ level, (ofEnvironment env).GivesLevel level ∧
        (ofEnvironment env).consoleLogger.KeepsTo level) ↔ ¬ env.MisspellsLevel) ∧
      (env.MisspellsLevel →
        ∀ level, (ofEnvironment env).consoleLogger.KeepsTo level ↔ level = .trace) := by
  -- where the level is misspelt the console keeps everything, which is what the lowest level keeps
  refine ⟨⟨?_, fun hspelled => ?_⟩, fun hmisspelled level => ?_⟩
  · rintro ⟨level, hgives, -⟩
    exact exists_givesLevel_iff.mp ⟨level, hgives⟩
  · obtain ⟨level, hgives⟩ := exists_givesLevel_iff.mpr hspelled
    exact ⟨level, hgives, hgives.consoleLogger ▸ Logger.console_keepsTo level⟩
  · have htrace := Logger.everything_keepsTo
    rw [← consoleLogger_of_misspellsLevel hmisspelled] at htrace
    exact ⟨fun hkeeps => hkeeps.eq htrace, fun hlevel => hlevel ▸ htrace⟩

/-- **A name that is no level.** With `constructor` for its level an environment gives no level, and
a message that is only for tracing reaches the console, which would otherwise keep to `info`. -/
theorem console_of_constructor :
    (ofEnvironment [("DYNAMODB_LOG_LEVEL", "constructor")]).logLevel = some "constructor" ∧
      (∀ level : LogLevel, level.name ≠ "constructor") ∧
      (((Run.log (ofEnvironment [("DYNAMODB_LOG_LEVEL", "constructor")]).consoleLogger
          { level := .trace, message := "ready" } : Run Unit Unit).run.run {}).2.journal.length,
        ((Run.log (ofEnvironment []).consoleLogger
          { level := .trace, message := "ready" } : Run Unit Unit).run.run {}).2.journal.length)
        = (1, 0) := by
  refine ⟨by decide, fun level => ?_, by decide⟩
  cases level <;> decide

end Config

end NamedQuery
