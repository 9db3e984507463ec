import Easel.Proofs.Result
import Easel.Settings.Launch

/-! The command line wins over the environment: a variable whose option is supplied has no say in
how a start ends, once the numbers in the environment can be read. -/
namespace Easel

variable {v v' o : Overrides} {words : List (String × Word)} {extras args : List String}
  {e e' : Environment} {s s' : Settings} {supplied : CliOption → Prop}

/-- Whether a word is the option, in any of its spellings. -/
def Word.isOption (option : CliOption) : Word → Bool
  | .option other _ _ => other = option
  | _ => false

/-- A command line supplies the options among its words. -/
def Supplies (args : List String) (option : CliOption) : Prop :=
  ∃ words, classify args = .ok words ∧ ∃ w ∈ words, w.2.isOption option = true

namespace Overrides

/-- Whether something takes the place of the setting. -/
def has (v : Overrides) : CliOption → Bool
  | .host => v.host.isSome
  | .port => v.port.isSome
  | .converter => v.converter.isSome
  | .timeout => v.timeout.isSome
  | .logLevel => v.logLevel.isSome
  | .help | .version => false

theorem isSome_of_readGiven {α : Type} {given : String} {read : String → Except UsageError α}
    {g : Option (Given α)} (h : readGiven given read = .ok g) : g.isSome = true := by
  unfold readGiven at h
  split at h
  · cases h
    rfl
  · obtain ⟨a, -, rfl⟩ := except_map_eq_ok.mp h
    rfl

/-- Taking the value of an option fills the place of that option and no other. -/
theorem has_take {taken : CliOption} {given : String} (htakes : taken.takesValue = true)
    (h : v.take taken given = .ok v') (option : CliOption) :
    v'.has option = (v.has option || decide (taken = option)) := by
  cases taken with
  | help | version => cases htakes
  | host | port | converter | timeout | logLevel =>
    obtain ⟨g, hg, hv⟩ := bind_eq_ok h
    cases hv
    have hsome := isSome_of_readGiven hg
    cases option <;> simp [has, hsome]

/-- Once all words are followed, the options among them have filled their places. A word that is
taken for a value is never an option. -/
theorem has_follow (h : follow v extras words = .ok (.serve o)) (option : CliOption) :
    o.has option = true ↔ v.has option = true ∨ ∃ w ∈ words, w.2.isOption option = true := by
  fun_induction follow v extras words with
  | case1 v extras hextras =>
    cases h
    simp
  | case2 v extras hextras => cases h
  | case3 v extras s rest ih | case4 v extras s rest ih => simpa [Word.isOption] using ih h
  | case5 v extras s taken isShort htakes given rest ih
  | case6 v extras s taken isShort htakes given rest ih =>
    obtain ⟨v', hv', h⟩ := bind_eq_ok h
    simp [ih v' h, has_take htakes hv', Word.isOption, or_assoc]
  | case7 v extras s taken isShort rest htakes hrest => cases h
  | case8 v extras s taken isShort attached rest htakes e he => cases h
  | case9 v extras s taken isShort attached rest htakes hnone => split at h <;> cases h

end Overrides

/-- What a command line supplies is what is read from it. -/
theorem supplies_iff_has (h : Command.ofArguments args = .ok (.serve o)) (option : CliOption) :
    Supplies args option ↔ o.has option = true := by
  obtain ⟨words, hwords, h⟩ := bind_eq_ok h
  have hnone : Overrides.has {} option = false := by cases option <;> rfl
  rw [Overrides.has_follow h, hnone]
  constructor
  · rintro ⟨words', hwords', hw⟩
    rw [hwords] at hwords'
    cases hwords'
    exact .inr hw
  · rintro (h | hw)
    · cases h
    · exact ⟨words, hwords, hw⟩

/-- The environments differ at most in the variables of what is supplied. -/
structure Environment.AgreeBut (supplied : CliOption → Prop) (e e' : Environment) : Prop where
  host : ¬ supplied .host → e.host = e'.host
  port : ¬ supplied .port → e.port = e'.port
  converter : ¬ supplied .converter → e.converter = e'.converter
  timeout : ¬ supplied .timeout → e.timeout = e'.timeout
  corsOrigins : e.corsOrigins = e'.corsOrigins
  logLevel : ¬ supplied .logLevel → e.logLevel = e'.logLevel

/-- The settings differ at most in what is supplied. -/
structure Settings.AgreeBut (supplied : CliOption → Prop) (s s' : Settings) : Prop where
  host : ¬ supplied .host → s.host = s'.host
  port : ¬ supplied .port → s.port = s'.port
  converter : ¬ supplied .converter → s.converter = s'.converter
  timeout : ¬ supplied .timeout → s.timeout = s'.timeout
  corsOrigins : s.corsOrigins = s'.corsOrigins
  logLevel : ¬ supplied .logLevel → s.logLevel = s'.logLevel

/-- The port and the time limit of an environment are numbers wherever others are supplied. -/
structure Environment.ReadsSupplied (supplied : CliOption → Prop) (e : Environment) : Prop where
  port : supplied .port → ∃ n, readInteger (e.port.getD "3200") = .ok n
  timeout : supplied .timeout → ∃ x, readNumber? (e.timeout.getD "60") = some x

/-- An environment has settings exactly if both of its numbers can be read. -/
theorem ofEnvironment_cases (e : Environment) :
    (∃ fault, readInteger (e.port.getD "3200") = .error fault ∧
      Settings.ofEnvironment e = .error (.port fault)) ∨
    (readNumber? (e.timeout.getD "60") = none ∧
      Settings.ofEnvironment e = .error (.timeout (e.timeout.getD "60"))) ∨
    ∃ s, Settings.ofEnvironment e = .ok s ∧ readInteger (e.port.getD "3200") = .ok s.port ∧
      readNumber? (e.timeout.getD "60") = some s.timeout := by
  unfold Settings.ofEnvironment
  cases hport : readInteger (e.port.getD "3200") with
  | error fault => exact .inl ⟨fault, rfl, rfl⟩
  | ok port =>
    cases htimeout : readNumber? (e.timeout.getD "60") with
    | none => exact .inr (.inl ⟨rfl, rfl⟩)
    | some timeout => exact .inr (.inr ⟨_, rfl, rfl, rfl⟩)

/-- Either neither environment has settings, and for the same reason, or both have some that differ
at most in what is supplied. -/
theorem ofEnvironment_agreeBut (h : e.AgreeBut supplied e') (hreads : e.ReadsSupplied supplied)
    (hreads' : e'.ReadsSupplied supplied) :
    (∃ fault, Settings.ofEnvironment e = .error fault ∧
      Settings.ofEnvironment e' = .error fault) ∨
    ∃ s s', Settings.ofEnvironment e = .ok s ∧ Settings.ofEnvironment e' = .ok s' ∧
      s.AgreeBut supplied s' := by
  have hport : (∃ fault, readInteger (e.port.getD "3200") = .error fault ∧
      readInteger (e'.port.getD "3200") = .error fault) ∨
      ∃ n n', readInteger (e.port.getD "3200") = .ok n ∧
        readInteger (e'.port.getD "3200") = .ok n' ∧ (¬ supplied .port → n = n') := by
    by_cases hsupplied : supplied .port
    · obtain ⟨n, hn⟩ := hreads.port hsupplied
      obtain ⟨n', hn'⟩ := hreads'.port hsupplied
      exact .inr ⟨n, n', hn, hn', fun hnot => (hnot hsupplied).elim⟩
    · rw [h.port hsupplied]
      cases readInteger (e'.port.getD "3200") with
      | error fault => exact .inl ⟨fault, rfl, rfl⟩
      | ok n => exact .inr ⟨n, n, rfl, rfl, fun _ => rfl⟩
  have htimeout : (e.timeout = e'.timeout ∧ readNumber? (e'.timeout.getD "60") = none) ∨
      ∃ x x', readNumber? (e.timeout.getD "60") = some x ∧
        readNumber? (e'.timeout.getD "60") = some x' ∧ (¬ supplied .timeout → x = x') := by
    by_cases hsupplied : supplied .timeout
    · obtain ⟨x, hx⟩ := hreads.timeout hsupplied
      obtain ⟨x', hx'⟩ := hreads'.timeout hsupplied
      exact .inr ⟨x, x', hx, hx', fun hnot => (hnot hsupplied).elim⟩
    · rw [h.timeout hsupplied]
      cases readNumber? (e'.timeout.getD "60") with
      | none => exact .inl ⟨rfl, rfl⟩
      | some x => exact .inr ⟨x, x, rfl, rfl, fun _ => rfl⟩
  unfold Settings.ofEnvironment
  rcases hport with ⟨fault, hp, hp'⟩ | ⟨n, n', hp, hp', hn⟩
  · rw [hp, hp']
    exact .inl ⟨_, rfl, rfl⟩
  · rw [hp, hp']
    rcases htimeout with ⟨hsame, ht⟩ | ⟨x, x', ht, ht', hx⟩
    · rw [hsame, ht]
      exact .inl ⟨_, rfl, rfl⟩
    · rw [ht, ht']
      refine .inr ⟨_, _, rfl, rfl, ⟨fun hs => ?_, hn, fun hs => ?_, hx, ?_, fun hs => ?_⟩⟩
      · rw [h.host hs]
      · rw [h.converter hs]
      · rw [h.corsOrigins]
      · rw [h.logLevel hs]

/-- A default matters only where nothing is given. -/
theorem getD_congr {α : Type} {given : Option (Given α)} {a b : α}
    (h : ¬ given.isSome = true → a = b) : given.getD (.value a) = given.getD (.value b) := by
  cases given with
  | none => rw [h (by simp)]
  | some g => rfl

theorem kind_congr (h : s.AgreeBut (fun option => o.has option = true) s') : o.kind s = o.kind s' :=
  getD_congr h.converter

/-- Settings that are overridden leave no trace in the service. -/
theorem ofSettings_congr (h : s.AgreeBut (fun option => o.has option = true) s')
    (available : Bool) : Service.ofSettings s o available = Service.ofSettings s' o available := by
  have hhost : o.host.getD (.value s.host) = o.host.getD (.value s'.host) := getD_congr h.host
  have hport : o.port.getD (.value s.port) = o.port.getD (.value s'.port) := getD_congr h.port
  have hlimit : o.limit s = o.limit s' := by
    rw [Overrides.limit, getD_congr h.timeout]
    rfl
  have hlevel : o.logLevel.getD (.value (upperCase s.logLevel)) =
      o.logLevel.getD (.value (upperCase s'.logLevel)) :=
    getD_congr fun hnot => congrArg upperCase (h.logLevel hnot)
  simp only [Service.ofSettings, hhost, hport, hlimit, hlevel, kind_congr h, h.corsOrigins]

/-- An environment that cannot be read stops a start before the command line is looked at. -/
theorem launch_of_ofEnvironment_error {fault : SettingsError}
    (h : Settings.ofEnvironment e = .error fault) (args : List String) (available : Bool) :
    launch e args available = .misconfigured fault := by
  rw [launch, h]

/-- Two starts with the same command line end alike if their environments differ only in what it
supplies and the numbers there can be read. An environment with another text in the place of such
a number is refused, whatever the command line. -/
theorem launch_eq_of_agreeBut (hargs : Command.ofArguments args = .ok (.serve o))
    (h : e.AgreeBut (Supplies args) e') (available : Bool) :
    (e.ReadsSupplied (Supplies args) → e'.ReadsSupplied (Supplies args) →
      launch e args available = launch e' args available) ∧
    (¬ e.ReadsSupplied (Supplies args) →
      ∃ fault, ∀ args available, launch e args available = .misconfigured fault) := by
  constructor
  · intro hreads hreads'
    rcases ofEnvironment_agreeBut h hreads hreads' with ⟨fault, he, he'⟩ | ⟨s, s', he, he', hs⟩
    · rw [launch_of_ofEnvironment_error he, launch_of_ofEnvironment_error he']
    · have hagree : s.AgreeBut (fun option => o.has option = true) s' := by
        simpa only [← supplies_iff_has hargs] using hs
      simp only [launch, he, he', hargs, ofSettings_congr hagree, kind_congr hagree]
  · intro hnot
    rcases ofEnvironment_cases e with ⟨fault, -, he⟩ | ⟨-, he⟩ | ⟨s, -, hport, htimeout⟩
    · exact ⟨_, launch_of_ofEnvironment_error he⟩
    · exact ⟨_, launch_of_ofEnvironment_error he⟩
    · exact (hnot ⟨fun _ => ⟨s.port, hport⟩, fun _ => ⟨s.timeout, htimeout⟩⟩).elim

namespace Relaunch

def line : List String := ["--port=4000", "--log-level", "debug"]

/-- There is no such log level. -/
def spoiled : Environment := { host := some "h", port := some "80", logLevel := some "TRACE" }

def plain : Environment := { host := some "h" }

theorem ofArguments_line : Command.ofArguments line =
    .ok (.serve { port := some (.value 4000), logLevel := some (.value "DEBUG") }) := by
  have hwords : classify line = .ok [("--port=4000", .option .port false (some "4000")),
      ("--log-level", .option .logLevel false none), ("debug", .plain)] := by
    with_unfolding_all rfl
  have hport : ({} : Overrides).take .port "4000" = .ok { port := some (.value 4000) } := by
    with_unfolding_all rfl
  have hlevel : ({ port := some (.value 4000) } : Overrides).take .logLevel "debug" =
      .ok { port := some (.value 4000), logLevel := some (.value "DEBUG") } := by
    with_unfolding_all rfl
  have hrest : follow { port := some (.value 4000) } []
      [("--log-level", .option .logLevel false none), ("debug", .plain)] =
        .ok (.serve { port := some (.value 4000), logLevel := some (.value "DEBUG") }) :=
    congrArg (· >>= fun o => follow o [] []) hlevel
  have hall : follow {} [] [("--port=4000", .option .port false (some "4000")),
      ("--log-level", .option .logLevel false none), ("debug", .plain)] =
        .ok (.serve { port := some (.value 4000), logLevel := some (.value "DEBUG") }) :=
    (congrArg (· >>= fun o => follow o [] _) hport).trans hrest
  exact (congrArg (· >>= follow {} []) hwords).trans hall

end Relaunch

open Relaunch in
theorem launch_eq_of_agreeBut_level :
    (∃ o, Command.ofArguments line = .ok (.serve o)) ∧
    spoiled.AgreeBut (Supplies line) plain ∧ spoiled.ReadsSupplied (Supplies line) ∧
    plain.ReadsSupplied (Supplies line) ∧ launch spoiled line true = launch plain line true := by
  have hargs := ofArguments_line
  have hagree : spoiled.AgreeBut (Supplies line) plain :=
    { host := fun _ => rfl
      port := fun hnot => (hnot ((supplies_iff_has hargs .port).mpr rfl)).elim
      converter := fun _ => rfl
      timeout := fun _ => rfl
      corsOrigins := rfl
      logLevel := fun hnot => (hnot ((supplies_iff_has hargs .logLevel).mpr rfl)).elim }
  have htimeout : ∃ x, readNumber? "60" = some x :=
    Option.isSome_iff_exists.mp (by decide +kernel)
  have hspoiled : spoiled.ReadsSupplied (Supplies line) :=
    ⟨fun _ => ⟨80, by with_unfolding_all rfl⟩, fun _ => htimeout⟩
  have hplain : plain.ReadsSupplied (Supplies line) :=
    ⟨fun _ => ⟨3200, by with_unfolding_all rfl⟩, fun _ => htimeout⟩
  exact ⟨⟨_, hargs⟩, hagree, hspoiled, hplain,
    (launch_eq_of_agreeBut hargs hagree true).1 hspoiled hplain⟩

/-- The port of the environment is read before the command line, so that a text that is no number
spoils a start whose port is supplied. -/
theorem overridden_port_refused :
    (∃ o, Command.ofArguments ["--port", "4000"] = .ok (.serve o)) ∧
    Environment.AgreeBut (Supplies ["--port", "4000"]) { port := some "abc" } {} ∧
    launch { port := some "abc" } ["--port", "4000"] false =
      .misconfigured (.port (.unreadable "abc")) ∧
    ∃ s lines, launch {} ["--port", "4000"] false = .serves s lines ∧ s.port = .value 4000 := by
  have hargs : Command.ofArguments ["--port", "4000"] =
      .ok (.serve { port := some (.value 4000) }) := by with_unfolding_all rfl
  have hgiven : readInteger "abc" = .error (.unreadable "abc") := by with_unfolding_all rfl
  have hport : readInteger "3200" = .ok 3200 := by with_unfolding_all rfl
  have hlevel : upperCase "INFO" = "INFO" := by decide +kernel
  have hkind : lowerCase "auto" = "auto" := by decide +kernel
  obtain ⟨timeout, htimeout⟩ : ∃ x, readNumber? "60" = some x :=
    Option.isSome_iff_exists.mp (by decide +kernel)
  have hsettings : Settings.ofEnvironment {} =
      .ok ⟨"0.0.0.0", 3200, "auto", timeout, commaItems "*", "INFO"⟩ := by
    simp [Settings.ofEnvironment, hport, htimeout, hlevel, hkind]
  have hservice : Service.ofSettings ⟨"0.0.0.0", 3200, "auto", timeout, commaItems "*", "INFO"⟩
      { port := some (.value 4000) } false =
        .ok ⟨.value "0.0.0.0", .value 4000, "INFO", commaItems "*", none⟩ := by
    simp only [Service.ofSettings, Overrides.kind, Option.getD_none, hlevel, chooseConverter]
    rfl
  refine ⟨⟨_, hargs⟩, ⟨fun _ => rfl, fun hnot => ?_, fun _ => rfl, fun _ => rfl, rfl, fun _ => rfl⟩,
    ?_, ?_⟩
  · exact (hnot ((supplies_iff_has hargs .port).mpr rfl)).elim
  · exact launch_of_ofEnvironment_error (by simp [Settings.ofEnvironment, hgiven]) _ _
  · simp only [launch, hsettings, hargs, hservice]
    exact ⟨_, _, rfl, rfl⟩

end Easel
