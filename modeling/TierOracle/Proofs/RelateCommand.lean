import Mathlib.Control.Monad.Basic
import TierOracle.Command.Run
import TierOracle.Proofs.FailureReport

namespace TierOracle

inductive RelateStep where
  | readConfig
  | parseConfig
  | readOptimized
  | readReference
  | decodeOptimized
  | decodeReference
  deriving DecidableEq, Repr

/-- The order in which the steps are taken. -/
def RelateStep.order : List RelateStep :=
  [readConfig, parseConfig, readOptimized, readReference, decodeOptimized, decodeReference]

def RelateStep.place (step : RelateStep) : Nat := order.idxOf step

structure RelatePaths where
  optimized : String
  reference : String
  config : Option String

/-- What a step that fails is called. -/
def RelateStep.words (p : RelatePaths) : RelateStep → String
  | readConfig => "failed to read config " ++ p.config.getD ""
  | parseConfig => "failed to parse config " ++ p.config.getD ""
  | readOptimized => "failed to read dump " ++ p.optimized
  | readReference => "failed to read dump " ++ p.reference
  | decodeOptimized => "malformed optimized trace"
  | decodeReference => "malformed reference trace"

namespace RelateStep

variable {p : RelatePaths}

theorem words_readConfig {path : String} (h : p.config = some path) :
    readConfig.words p = "failed to read config " ++ path := by
  unfold words
  rw [h, Option.getD_some]

theorem words_parseConfig {path : String} (h : p.config = some path) :
    parseConfig.words p = "failed to parse config " ++ path := by
  unfold words
  rw [h, Option.getD_some]

/-- The sixteenth character of the words, which tells most steps apart. -/
def mark : RelateStep → Char
  | readConfig => 'c'
  | parseConfig => ' '
  | readOptimized => 'd'
  | readReference => 'd'
  | decodeOptimized => 'i'
  | decodeReference => 'e'

theorem getElem?_words (p : RelatePaths) (step : RelateStep) :
    (step.words p).toList[15]? = some step.mark := by
  have hfront : ∀ front path : String, 15 < front.toList.length →
      (front ++ path).toList[15]? = front.toList[15]? := by
    intro front path hlength
    rw [String.toList_append, List.getElem?_append_left hlength]
  cases step with
  | decodeOptimized => exact (by decide : "malformed optimized trace".toList[15]? = some 'i')
  | decodeReference => exact (by decide : "malformed reference trace".toList[15]? = some 'e')
  | _ => exact hfront _ _ (by decide)

/-- Words are shared only by the steps that read a dump, and only if both dumps are one file. -/
theorem eq_or_reads_of_words {step other : RelateStep} (h : step.words p = other.words p) :
    step = other ∨ p.optimized = p.reference ∧ (step = readReference ∨ other = readReference) := by
  have hmark : step.mark = other.mark := by
    apply Option.some.inj
    rw [← getElem?_words p, h, getElem?_words]
  cases step <;> cases other
  case readOptimized.readReference => exact .inr ⟨(String.append_right_inj _).mp h, .inr rfl⟩
  case readReference.readOptimized => exact .inr ⟨((String.append_right_inj _).mp h).symm, .inl rfl⟩
  all_goals first | exact .inl rfl | exact absurd hmark (by decide)

end RelateStep

namespace RelatePaths

/-- How a step fails, looked at by itself, and for what reasons. -/
inductive Fails (libs : Libraries) (files : Files) (p : RelatePaths) :
    RelateStep → List String → Prop where
  | readConfig {path : String} {cause : ReadError} (given : p.config = some path)
      (read : files.readText path = .error cause) :
      Fails libs files p .readConfig [cause.message]
  | parseConfig {path text : String} {fault : Json.Fault} (given : p.config = some path)
      (read : files.readText path = .ok text) (parse : Config.ofJson text = .error fault) :
      Fails libs files p .parseConfig ("invalid oracle config" :: (libs.explain text).toList)
  | readOptimized {cause : ReadError} (read : files.readText p.optimized = .error cause) :
      Fails libs files p .readOptimized [cause.message]
  | readReference {cause : ReadError} (read : files.readText p.reference = .error cause) :
      Fails libs files p .readReference [cause.message]
  | decodeOptimized {dump : String} {cause : FormatError}
      (read : files.readText p.optimized = .ok dump)
      (decode : Trace.decode dump maxTraceSlots = .error cause) :
      Fails libs files p .decodeOptimized [cause.message]
  | decodeReference {dump : String} {cause : FormatError}
      (read : files.readText p.reference = .ok dump)
      (decode : Trace.decode dump maxTraceSlots = .error cause) :
      Fails libs files p .decodeReference [cause.message]

/-- A step fails and none before it does. -/
structure FirstFails (libs : Libraries) (files : Files) (p : RelatePaths) (step : RelateStep)
    (reasons : List String) : Prop where
  fails : p.Fails libs files step reasons
  first : ∀ earlier : RelateStep, earlier.place < step.place → ∀ others,
    ¬ p.Fails libs files earlier others

/-- The configuration file asks to compare tiers. -/
def FileCompares (files : Files) (p : RelatePaths) : Prop :=
  ∃ path text c, p.config = some path ∧ files.readText path = .ok text ∧
    Config.ofJson text = .ok c ∧ c.compareTier = true

def Holds (files : Files) (path : String) (t : Trace) : Prop :=
  ∃ dump, files.readText path = .ok dump ∧ Trace.decode dump maxTraceSlots = .ok t

/-- The same configuration file, or another one that differs only in what is logged. -/
def SameButLog (files files' : Files) (p : RelatePaths) : Prop :=
  ∀ path, p.config = some path →
    files'.readText path = files.readText path ∨
      ∃ text text' c c', files.readText path = .ok text ∧ Config.ofJson text = .ok c ∧
        files'.readText path = .ok text' ∧ Config.ofJson text' = .ok c' ∧
        c'.compareTier = c.compareTier

end RelatePaths

/-- The steps of a run that tell no mismatch to the log. -/
def Logged.Unreported {α : Type} (x : Logged α) : Prop := ∀ m, Event.mismatched m ∉ x.events

namespace Trace

theorem ofBlocks_unreported (limit : Nat) (c : Carry) (count exposed : Nat) (blocks : List Block) :
    (ofBlocks limit c count exposed blocks).Unreported := by
  induction blocks generalizing c count exposed with
  | nil => simp [Logged.Unreported, ofBlocks]
  | cons b blocks ih =>
    intro m
    rw [ofBlocks]
    cases Statement.ofBlock b with
    | error e => simp
    | ok st =>
      have hlater := ih (c.step st).2 (count + 1) (addExposed exposed (c.counts st.fields).total) m
      dsimp only
      split
      · simp
      · simp [hlater]

theorem logDecode_unreported (dump : String) (limit : Nat) :
    (logDecode dump limit).Unreported := by
  unfold logDecode
  split
  · simp [Logged.Unreported]
  · exact ofBlocks_unreported limit .start 0 0 _

end Trace

theorem Matcher.relateFrom_unreported (m : Matcher) (reference : Trace) (index cursor : Nat)
    (optimized : Trace) : (m.relateFrom reference index cursor optimized).Unreported := by
  induction optimized generalizing index cursor with
  | nil => simp [Logged.Unreported, relateFrom]
  | cons frame rest ih =>
    intro mismatch
    rw [relateFrom]
    cases (reference.drop cursor).findIdx? (m.fits frame) with
    | none => simp
    | some skipped => simp [ih (index + 1) (cursor + skipped) mismatch]

theorem Config.relate_unreported {c : Config} (hc : c.logMismatches = false)
    (optimized reference : String) : (c.relate optimized reference).Unreported := by
  intro m
  have hdecode : ∀ dump, Event.mismatched m ∉ (Trace.logDecode dump maxTraceSlots).events :=
    fun dump => Trace.logDecode_unreported dump maxTraceSlots m
  have hrelate : ∀ t u, Event.mismatched m ∉ (c.relateTraces t u).events := by
    intro t u
    have hsearch := c.matcher.relateFrom_unreported u 0 0 t m
    simp [relateTraces, Matcher.logRelate, reported, hc, hsearch]
  rw [relate, Logged.events_bind, List.mem_append, not_or]
  refine ⟨hdecode optimized, ?_⟩
  cases (Trace.logDecode optimized maxTraceSlots).result with
  | error cause => simp
  | ok t =>
    rw [Logged.events_bind, List.mem_append, not_or]
    refine ⟨hdecode reference, ?_⟩
    cases (Trace.logDecode reference maxTraceSlots).result with
    | error cause => simp
    | ok u => simp [hrelate]

namespace Command

variable {libs : Libraries} {files : Files} {path text : String}

theorem loadConfig_of_readText_error {cause : ReadError}
    (hread : files.readText path = .error cause) (compareTier : Bool) :
    loadConfig files (some path) compareTier libs = .error (.unreadableConfig path cause) := by
  simp only [loadConfig, hread]
  rfl

theorem loadConfig_of_ofJson_error {fault : Json.Fault} (hread : files.readText path = .ok text)
    (hparse : Config.ofJson text = .error fault) (compareTier : Bool) :
    loadConfig files (some path) compareTier libs =
      .error (.invalidConfig path fault (libs.explain text)) := by
  simp only [loadConfig, hread, hparse]
  rfl

/-- The flag is put on top of what a file states, and no log of mismatches is asked for. -/
theorem loadConfig_of_ofJson_ok {c : Config} (hread : files.readText path = .ok text)
    (hparse : Config.ofJson text = .ok c) (compareTier : Bool) :
    loadConfig files (some path) compareTier libs = .ok ⟨c.compareTier || compareTier, false⟩ := by
  simp only [loadConfig, hread, hparse]
  rfl

theorem logMismatches_loadConfig {given : Option String} {compareTier : Bool} {c : Config}
    (h : loadConfig files given compareTier libs = .ok c) : c.logMismatches = false := by
  cases given with
  | none =>
    cases h
    rfl
  | some path =>
    cases hread : files.readText path with
    | error cause =>
      rw [loadConfig_of_readText_error hread] at h
      cases h
    | ok text =>
      cases hparse : Config.ofJson text with
      | error fault =>
        rw [loadConfig_of_ofJson_error hread hparse] at h
        cases h
      | ok c =>
        rw [loadConfig_of_ofJson_ok hread hparse] at h
        cases h
        rfl

end Command

namespace RelatePaths

variable {libs : Libraries} {files : Files} {p : RelatePaths}

def command (p : RelatePaths) (compareTier json : Bool) : Command :=
  .relate p.optimized p.reference p.config compareTier json

/-- Without a failure of its own, tiers are compared if the flag or the file says so. -/
theorem exists_loadConfig (hread : ∀ reasons, ¬ p.Fails libs files .readConfig reasons)
    (hparse : ∀ reasons, ¬ p.Fails libs files .parseConfig reasons) (compareTier : Bool) :
    ∃ c, Command.loadConfig files p.config compareTier libs = .ok c ∧
      (c.compareTier = true ↔ compareTier = true ∨ p.FileCompares files) := by
  cases hconfig : p.config with
  | none =>
    refine ⟨⟨compareTier, false⟩, rfl, ?_⟩
    simp [FileCompares, hconfig]
  | some path =>
    cases htext : files.readText path with
    | error cause => exact absurd (.readConfig hconfig htext) (hread _)
    | ok text =>
      cases hfile : Config.ofJson text with
      | error fault => exact absurd (.parseConfig hconfig htext hfile) (hparse _)
      | ok c =>
        refine ⟨_, Command.loadConfig_of_ofJson_ok htext hfile compareTier, ?_⟩
        simp [FileCompares, hconfig, htext, hfile, or_comm]

theorem exists_readText_optimized (h : ∀ reasons, ¬ p.Fails libs files .readOptimized reasons) :
    ∃ dump, files.readText p.optimized = .ok dump := by
  cases hread : files.readText p.optimized with
  | error cause => exact absurd (.readOptimized hread) (h _)
  | ok dump => exact ⟨dump, rfl⟩

theorem exists_readText_reference (h : ∀ reasons, ¬ p.Fails libs files .readReference reasons) :
    ∃ dump, files.readText p.reference = .ok dump := by
  cases hread : files.readText p.reference with
  | error cause => exact absurd (.readReference hread) (h _)
  | ok dump => exact ⟨dump, rfl⟩

/-- The command depends on its configuration and on the two texts, looked at in this order. -/
theorem result_command (libs : Libraries) (files : Files) (p : RelatePaths)
    (compareTier json : Bool) :
    ((p.command compareTier json).run files libs).result =
      match Command.loadConfig files p.config compareTier libs, files.readText p.optimized,
        files.readText p.reference with
      | .error failure, _, _ => .error failure
      | .ok _, .error cause, _ => .error (.unreadableDump p.optimized cause)
      | .ok _, .ok _, .error cause => .error (.unreadableDump p.reference cause)
      | .ok c, .ok optimized, .ok reference =>
        ((c.relate optimized reference).result.mapError .notRelated).map
          (Command.verdictOutput json) := by
  rw [command, Command.run]
  cases Command.loadConfig files p.config compareTier libs with
  | error failure => rfl
  | ok c =>
    simp only [Command.relateFiles, Command.readDump]
    cases files.readText p.optimized with
    | error cause => rfl
    | ok optimized =>
      cases files.readText p.reference with
      | error cause => rfl
      | ok reference => simp only [Except.mapError, Logged.result_bind, Logged.result_pure]

variable {step : RelateStep} {reasons : List String}

theorem Fails.exists_firstFails (h : p.Fails libs files step reasons) :
    ∃ first others, p.FirstFails libs files first others := by
  induction hplace : step.place using Nat.strongRecOn generalizing step reasons with
  | ind n ih =>
    by_cases hearlier : ∃ (earlier : RelateStep) (others : List String),
        earlier.place < step.place ∧ p.Fails libs files earlier others
    · obtain ⟨earlier, others, hlt, hfails⟩ := hearlier
      exact ih _ (hplace ▸ hlt) hfails rfl
    · exact ⟨step, reasons, h,
        fun earlier hlt others hfails => hearlier ⟨earlier, others, hlt, hfails⟩⟩

/-- From the third step on, the configuration has been loaded. -/
theorem FirstFails.exists_loadConfig (h : p.FirstFails libs files step reasons)
    (hstep : RelateStep.parseConfig.place < step.place) (compareTier : Bool) :
    ∃ c, Command.loadConfig files p.config compareTier libs = .ok c := by
  have hread := h.first .readConfig (Nat.lt_trans (by decide) hstep)
  have hparse := h.first .parseConfig hstep
  obtain ⟨c, hload, -⟩ := RelatePaths.exists_loadConfig hread hparse compareTier
  exact ⟨c, hload⟩

/-- The first step that fails decides the result: a failure that gives the step its words and then
the reasons. -/
theorem FirstFails.exists_failure (h : p.FirstFails libs files step reasons)
    (compareTier json : Bool) :
    ∃ failure, failure.chain = step.words p :: reasons ∧
      ((p.command compareTier json).run files libs).result = .error failure := by
  have hload := fun hstep => h.exists_loadConfig hstep compareTier
  obtain ⟨hfails, hfirst⟩ := h
  rw [RelatePaths.result_command]
  cases hfails with
  | @readConfig path cause hgiven hread =>
    refine ⟨.unreadableConfig path cause, ?_, ?_⟩
    · rw [RelateStep.words_readConfig hgiven]
      rfl
    · rw [hgiven, Command.loadConfig_of_readText_error hread]
  | @parseConfig path text fault hgiven hread hparse =>
    refine ⟨.invalidConfig path fault (libs.explain text), ?_, ?_⟩
    · rw [RelateStep.words_parseConfig hgiven]
      rfl
    · rw [hgiven, Command.loadConfig_of_ofJson_error hread hparse]
  | @readOptimized cause hread =>
    obtain ⟨c, hload⟩ := hload (by decide)
    exact ⟨.unreadableDump p.optimized cause, rfl, by rw [hload, hread]⟩
  | @readReference cause hread =>
    obtain ⟨c, hload⟩ := hload (by decide)
    obtain ⟨dump, hdump⟩ := exists_readText_optimized (hfirst .readOptimized (by decide))
    exact ⟨.unreadableDump p.reference cause, rfl, by rw [hload, hdump, hread]⟩
  | @decodeOptimized dump cause hread hdecode =>
    obtain ⟨c, hload⟩ := hload (by decide)
    obtain ⟨other, hother⟩ := exists_readText_reference (hfirst .readReference (by decide))
    refine ⟨.notRelated (.malformedTrace .optimized cause), rfl, ?_⟩
    rw [hload, hread, hother]
    simp only [Config.result_relate, hdecode]
    rfl
  | @decodeReference dump cause hread hdecode =>
    obtain ⟨c, hload⟩ := hload (by decide)
    obtain ⟨other, hother⟩ := exists_readText_optimized (hfirst .readOptimized (by decide))
    refine ⟨.notRelated (.malformedTrace .reference cause), rfl, ?_⟩
    cases htrace : Trace.decode other maxTraceSlots with
    | error cause =>
      exact absurd (.decodeOptimized hother htrace) (hfirst .decodeOptimized (by decide) _)
    | ok t =>
      rw [hload, hother, hread]
      simp only [Config.result_relate, htrace, hdecode]
      rfl

/-- If both dumps are one file, it has been read by the time that the second one is. -/
theorem FirstFails.ne_readReference (h : p.FirstFails libs files step reasons)
    (hsame : p.optimized = p.reference) : step ≠ .readReference := by
  rintro rfl
  obtain ⟨hfails, hfirst⟩ := h
  cases hfails with
  | readReference hread =>
    exact hfirst .readOptimized (by decide) _ (.readOptimized (hsame ▸ hread))

/-- No two steps have the same words when they are the first to fail. -/
theorem FirstFails.eq_of_words {files' : Files} {step' : RelateStep} {reasons' : List String}
    (h : p.FirstFails libs files step reasons) (h' : p.FirstFails libs files' step' reasons')
    (hwords : step'.words p = step.words p) : step' = step := by
  rcases RelateStep.eq_or_reads_of_words hwords with heq | ⟨hpaths, hstep⟩
  · exact heq
  · rcases hstep with rfl | rfl
    · exact absurd rfl (h'.ne_readReference hpaths)
    · exact absurd rfl (h.ne_readReference hpaths)

/-- Without a failing step, the result is the verdict of the matcher on the two traces. -/
theorem exists_result_command (h : ∀ step reasons, ¬ p.Fails libs files step reasons)
    (compareTier json : Bool) :
    ∃ (m : Matcher) (t u : Trace),
      (m.compareTier = true ↔ compareTier = true ∨ p.FileCompares files) ∧
        Holds files p.optimized t ∧ Holds files p.reference u ∧
        ((p.command compareTier json).run files libs).result =
          .ok (Command.verdictOutput json (m.relate t u)) := by
  obtain ⟨c, hload, hcompare⟩ := exists_loadConfig (h _) (h _) compareTier
  obtain ⟨optimized, hoptimized⟩ := exists_readText_optimized (h _)
  obtain ⟨reference, hreference⟩ := exists_readText_reference (h _)
  cases ht : Trace.decode optimized maxTraceSlots with
  | error cause => exact absurd (.decodeOptimized hoptimized ht) (h _ _)
  | ok t =>
    cases hu : Trace.decode reference maxTraceSlots with
    | error cause => exact absurd (.decodeReference hreference hu) (h _ _)
    | ok u =>
      refine ⟨c.matcher, t, u, hcompare, ⟨_, hoptimized, ht⟩, ⟨_, hreference, hu⟩, ?_⟩
      rw [result_command, hload, hoptimized, hreference]
      simp only [Config.result_relate, ht, hu]
      rfl

theorem SameButLog.loadConfig {files' : Files} (h : p.SameButLog files files')
    (compareTier : Bool) :
    Command.loadConfig files' p.config compareTier libs =
      Command.loadConfig files p.config compareTier libs := by
  cases hconfig : p.config with
  | none => rfl
  | some path =>
    rcases h path hconfig with hread | ⟨text, text', c, c', hread, hparse, hread', hparse', hsame⟩
    · simp only [Command.loadConfig, hread]
    · rw [Command.loadConfig_of_ofJson_ok hread hparse,
        Command.loadConfig_of_ofJson_ok hread' hparse', hsame]

end RelatePaths

/-- What is left behind follows from the result alone. -/
def Output.ofResult (libs : Libraries) : Except Failure Output → Output
  | .error failure => { exitCode := 1, stdout := "", stderr := libs.report failure }
  | .ok output => output

theorem output_execute {libs : Libraries} {files : Files} {requested : Option String}
    {args : List String} {i : Invocation} (h : Invocation.ofArguments? [] args = some i) :
    (execute files requested args libs).output libs =
      .ofResult libs (i.command.run files libs).result := by
  rw [execute, h]
  simp only [Invocation.run]
  cases (i.command.run files libs).result <;> rfl

theorem log_execute {libs : Libraries} {files : Files} {requested : Option String}
    {args : List String} {i : Invocation} (h : Invocation.ofArguments? [] args = some i) :
    (execute files requested args libs).log =
      ((i.command.run files libs).events.filter (libs.logs i.quiet requested)).map Event.text := by
  rw [execute, h]
  simp only [Invocation.run]
  cases (i.command.run files libs).result <;> rfl

theorem RelatePaths.command_unreported (libs : Libraries) (files : Files) (p : RelatePaths)
    (compareTier json : Bool) : ((p.command compareTier json).run files libs).Unreported := by
  intro m
  rw [command, Command.run]
  cases hload : Command.loadConfig files p.config compareTier libs with
  | error failure => simp
  | ok c =>
    have hquiet : c.logMismatches = false := Command.logMismatches_loadConfig hload
    have hrelate : Event.mismatched m ∉
        (Command.relateFiles files c p.optimized p.reference).events := by
      unfold Command.relateFiles
      split
      · simp
      · simp
      · rename_i optimized reference _ _
        have hdumps := Config.relate_unreported hquiet optimized reference m
        simpa using hdumps
    simp [hrelate]

theorem Command.verdictOutput_eq (json : Bool) (v : Verdict) :
    verdictOutput json v =
      { exitCode := if v.isConsistent then 0 else 1
        stdout :=
          (if json then v.toJson.text Json.indented
          else if v.isConsistent then "consistent" else "mismatch") ++ "\n"
        stderr := (v.mismatch.map (fun mismatch => mismatch.report ++ "\n")).getD "" } := by
  cases h : v.mismatch <;> simp [verdictOutput, verdictText, Verdict.isConsistent, h]

/-- The whole command. Either some step fails: then the first one in their fixed order is reported
in its own words, with the reasons behind it, exit code one and nothing on the standard output. Or
the verdict of the matcher on the two traces is printed, tiers being compared if the flag or the
configuration file asks for it, and the report of a mismatch goes to the error stream. No mismatch
is logged besides. A report of a failure tells which step failed. None of this depends on what is
logged, on the wish for a quieter log, or on what the configuration file says about the log. -/
theorem execute_relate {libs : Libraries} (hreport : Displays libs.report) {files : Files}
    {requested : Option String} {args : List String} {p : RelatePaths}
    {quiet compareTier json : Bool}
    (hargs : Invocation.ofArguments? [] args = some ⟨quiet, p.command compareTier json⟩) :
    ((∃ step reasons failure, p.FirstFails libs files step reasons ∧
        failure.chain = step.words p :: reasons ∧
        (execute files requested args libs).output libs =
          { exitCode := 1, stdout := "", stderr := libs.report failure } ∧
        ∀ message ∈ step.words p :: reasons, ∀ line ∈ Text.pieces message,
          line.toList <:+: (libs.report failure).toList) ∨
      (∀ step reasons, ¬ p.Fails libs files step reasons) ∧
        ∃ (m : Matcher) (t u : Trace),
          (m.compareTier = true ↔ compareTier = true ∨ p.FileCompares files) ∧
            RelatePaths.Holds files p.optimized t ∧ RelatePaths.Holds files p.reference u ∧
            let v := m.relate t u
            (execute files requested args libs).output libs =
              { exitCode := if v.isConsistent then 0 else 1
                stdout :=
                  (if json then v.toJson.text Json.indented
                  else if v.isConsistent then "consistent" else "mismatch") ++ "\n"
                stderr := (v.mismatch.map (fun mismatch => mismatch.report ++ "\n")).getD "" }) ∧
    (∀ line ∈ (execute files requested args libs).log,
      ∃ e : Event, line = e.text ∧ ∀ m, e ≠ .mismatched m) ∧
    (∀ files' requested' args' quiet' compareTier' json' step step' reasons reasons',
      Invocation.ofArguments? [] args' = some ⟨quiet', p.command compareTier' json'⟩ →
      p.FirstFails libs files step reasons → p.FirstFails libs files' step' reasons' →
      ((execute files' requested' args' libs).output libs).stderr =
        ((execute files requested args libs).output libs).stderr → step' = step) ∧
    ∀ files' requested' args' quiet',
      Invocation.ofArguments? [] args' = some ⟨quiet', p.command compareTier json⟩ →
      files'.readText p.optimized = files.readText p.optimized →
      files'.readText p.reference = files.readText p.reference →
      p.SameButLog files files' →
      (execute files' requested' args' libs).output libs =
        (execute files requested args libs).output libs := by
  refine ⟨?_, ?_, ?_, ?_⟩
  · by_cases hsome : ∃ step reasons, p.Fails libs files step reasons
    · obtain ⟨_, _, hfails⟩ := hsome
      obtain ⟨step, reasons, hfirst⟩ := hfails.exists_firstFails
      obtain ⟨failure, hchain, hresult⟩ := hfirst.exists_failure compareTier json
      refine .inl ⟨step, reasons, failure, hfirst, hchain, ?_, ?_⟩
      · rw [output_execute hargs, hresult]
        rfl
      · rw [← hchain]
        exact hreport.shows failure
    · have hnone : ∀ step reasons, ¬ p.Fails libs files step reasons :=
        fun step reasons hfails => hsome ⟨step, reasons, hfails⟩
      obtain ⟨m, t, u, hcompare, ht, hu, hresult⟩ :=
        RelatePaths.exists_result_command hnone compareTier json
      refine .inr ⟨hnone, m, t, u, hcompare, ht, hu, ?_⟩
      rw [output_execute hargs, hresult]
      exact Command.verdictOutput_eq json (m.relate t u)
  · intro line hline
    rw [log_execute hargs] at hline
    obtain ⟨e, he, rfl⟩ := List.mem_map.mp hline
    refine ⟨e, rfl, ?_⟩
    rintro m rfl
    exact p.command_unreported libs files compareTier json m (List.mem_filter.mp he).1
  · intro files' requested' args' quiet' compareTier' json' step step' reasons reasons' hargs'
      hfirst hfirst' hsame
    obtain ⟨failure, hchain, hresult⟩ := hfirst.exists_failure compareTier json
    obtain ⟨failure', hchain', hresult'⟩ := hfirst'.exists_failure compareTier' json'
    rw [output_execute hargs, output_execute hargs', hresult, hresult'] at hsame
    have hheads := hreport.tells failure' failure hsame
    rw [hchain, hchain'] at hheads
    exact hfirst.eq_of_words hfirst' (Option.some.inj hheads)
  · intro files' requested' args' quiet' hargs' hoptimized hreference hconfig
    rw [output_execute hargs, output_execute hargs', RelatePaths.result_command,
      RelatePaths.result_command, hconfig.loadConfig, hoptimized, hreference]

/-- Frames of one point and of different tiers, so that the file decides the verdict where no flag
is given. A configuration that is none comes before a dump that is not there, and no other step that
fails leaves its report. What is said about the log changes nothing. -/
theorem execute_relate_as_configured :
    let libs : Libraries :=
      { explain := fun text =>
          if text = "none" then some "expected ident at line 1 column 2" else none }
    let files (config : String) : Files := fun path =>
      if path = "opt" then .ok "---T\nb:1\n".toUTF8
      else if path = "ref" then .ok "---I\nb:1\n".toUTF8
      else if path = "cfg" then .ok config.toUTF8 else .error .absent
    let p (optimized : String) : RelatePaths := ⟨optimized, "ref", some "cfg"⟩
    let args (optimized : String) := ["relate", "-o", optimized, "-r", "ref", "-c", "cfg"]
    let strict := "\x7b\"compare_frame_type\":true,\"log_mismatches\":true\x7d"
    let refused := (execute (files "none") none (args "gone") libs).output libs
    let mismatched := (execute (files strict) (some "trace") (args "opt") libs).output libs
    ((p "gone").FirstFails libs (files "none") .parseConfig
        ["invalid oracle config", "expected ident at line 1 column 2"] ∧
      refused =
        { exitCode := 1
          stdout := ""
          stderr := "Error: \n   0: failed to parse config cfg\n   1: invalid oracle config\n"
            ++ "   2: expected ident at line 1 column 2\n" } ∧
      ∀ files' step reasons, (p "gone").FirstFails libs files' step reasons →
        (execute files' none (args "gone") libs).output libs = refused → step = .parseConfig) ∧
    (mismatched.exitCode = 1 ∧ mismatched.stdout = "mismatch\n" ∧
      (execute (files "[true,false]") none ("-q" :: args "opt") libs).output libs = mismatched ∧
      ∀ line ∈ (execute (files strict) (some "trace") (args "opt") libs).log,
        ∃ e : Event, line = e.text ∧ ∀ m, e ≠ .mismatched m) ∧
    (execute (files "[false,true]") none (args "opt") libs).output libs =
      { stdout := "consistent\n" } ∧
    (execute (files "[false,true]") none (args "opt" ++ ["--json"]) libs).output libs =
      { stdout := "\x7b\n  \"matched\": [\n    0\n  ],\n  \"mismatch\": null\n\x7d\n" } := by
  intro libs files p args strict refused mismatched
  have hargs : ∀ optimized ∈ ["gone", "opt"], Invocation.ofArguments? [] (args optimized) =
      some ⟨false, (p optimized).command false false⟩ := by decide +kernel
  have hquiet : Invocation.ofArguments? [] ("-q" :: args "opt") =
      some ⟨true, (p "opt").command false false⟩ := by decide +kernel
  have hfirst : (p "gone").FirstFails libs (files "none") .parseConfig
      ["invalid oracle config", "expected ident at line 1 column 2"] := by
    have hread : (files "none").readText "cfg" = .ok "none" := by decide +kernel
    have hparse : Config.ofJson "none" = .error .malformed := by decide +kernel
    refine ⟨.parseConfig rfl hread hparse, ?_⟩
    intro earlier hlt others hfails
    cases hfails with
    | readConfig hgiven hfailed =>
      obtain rfl := Option.some.inj hgiven
      rw [hread] at hfailed
      cases hfailed
    | _ => exact absurd hlt (by decide)
  have hsame : (p "opt").SameButLog (files strict) (files "[true,false]") := by
    intro path hpath
    obtain rfl := Option.some.inj hpath
    exact .inr ⟨strict, "[true,false]", ⟨true, true⟩, ⟨true, false⟩, by decide +kernel,
      by decide +kernel, by decide +kernel, by decide +kernel, rfl⟩
  obtain ⟨_, _, htells, _⟩ := @execute_relate libs Failure.displays_numbered (files "none") none
    (args "gone") (p "gone") false false false (hargs _ (by decide))
  obtain ⟨_, hlog, _, houtput⟩ := @execute_relate libs Failure.displays_numbered (files strict)
    (some "trace") (args "opt") (p "opt") false false false (hargs _ (by decide))
  refine ⟨⟨hfirst, by decide +kernel, ?_⟩, ⟨by decide +kernel, by decide +kernel, ?_, hlog⟩,
    by decide +kernel, by decide +kernel⟩
  · intro files' step reasons hfirst' hreport
    exact htells files' none (args "gone") false false false _ _ _ _ (hargs _ (by decide)) hfirst
      hfirst' (congrArg Output.stderr hreport)
  · exact houtput (files "[true,false]") none ("-q" :: args "opt") true hquiet rfl rfl hsame

end TierOracle
