import GraphEngine.Proofs.Result
import GraphEngine.Settings.Basic

/-!
Which layer decides a setting.

What the command line gives stands, whatever the environment holds for the same field. One thing is
looked at all the same: a port in the environment is read as a number before the command line has
its turn, and a text that is none is an error even where the port would not be used.
-/
namespace GraphEngine.Settings

variable {base settings : Settings} {environment other : Environment} {overrides : Overrides}

/-- The fields that every layer may give. -/
inductive Field where
  | host
  | port
  | dataDir
  | stagingDir
deriving DecidableEq

namespace Field

/-- Where the environment holds the field. -/
def variableName : Field → String
  | .host => hostVariable
  | .port => portVariable
  | .dataDir => dataDirVariable
  | .stagingDir => stagingDirVariable

/-- Whether the command line has a value of its own for the field. -/
def isOverridden (overrides : Overrides) : Field → Bool
  | .host => overrides.host.isSome
  | .port => overrides.port.isSome
  | .dataDir => overrides.dataDir.isSome
  | .stagingDir => overrides.stagingDir.isSome

theorem variableName_injective {first second : Field}
    (same : first.variableName = second.variableName) : first = second := by
  cases first <;> cases second <;> first | rfl | exact absurd same (by decide)

end Field

/-- The settings of the file, below what the environment and the command line give. -/
def layered (base : Settings) (environment : Environment) (overrides : Overrides) : Settings :=
  { base with
    host := (overrides.host.or (environment hostVariable)).getD base.host
    port := (overrides.port.or ((environment portVariable).bind port?)).getD base.port
    dataDir := (overrides.dataDir.or (environment dataDirVariable)).getD base.dataDir
    stagingDir := (overrides.stagingDir.or (environment stagingDirVariable)).getD base.stagingDir }

/-- The environment holds no port, or one that is a number. -/
def PortReadable (environment : Environment) : Prop :=
  ∀ text, environment portVariable = some text → (port? text).isSome = true

theorem exists_of_not_portReadable (unreadable : ¬ PortReadable environment) :
    ∃ text, environment portVariable = some text ∧ port? text = none := by
  obtain ⟨text, notRead⟩ := Classical.not_forall.mp unreadable
  obtain ⟨held, isNone⟩ := Classical.not_imp.mp notRead
  exact ⟨text, held, Option.not_isSome_iff_eq_none.mp isNone⟩

theorem portLayer_of_readable (base : Settings) (readable : PortReadable environment) :
    base.portLayer environment
      = .ok (((environment portVariable).bind port?).getD base.port) := by
  unfold portLayer
  cases held : environment portVariable with
  | none => rfl
  | some text =>
      obtain ⟨port, isPort⟩ := Option.isSome_iff_exists.mp (readable text held)
      simp [isPort]

theorem portLayer_of_unreadable (base : Settings) {text : String}
    (held : environment portVariable = some text) (unreadable : port? text = none) :
    base.portLayer environment = .error (.invalidParameter portVariable (.notPort text)) := by
  simp only [portLayer, held, unreadable]

theorem validate_eq_ok : settings.validate = .ok () ↔
    0 < settings.workers ∧ 0 < settings.queueCapacity := by
  unfold validate
  split
  · next noWorkers => simp [noWorkers]
  · next workers =>
      split
      · next noQueue => simp [noQueue]
      · next queue =>
          exact ⟨fun _ => ⟨Nat.pos_of_ne_zero workers, Nat.pos_of_ne_zero queue⟩, fun _ => rfl⟩

/-- No layer above the file gives what is checked at the end. -/
theorem validate_layered : (base.layered environment overrides).validate = base.validate := rfl

theorem withOverrides_withEnvironment (base : Settings) (overrides : Overrides)
    (readable : PortReadable environment) :
    (base.withEnvironment environment).map (·.withOverrides overrides)
      = .ok (base.layered environment overrides) := by
  have above {α : Type} (upper lower : Option α) (value : α) :
      upper.getD (lower.getD value) = (upper.or lower).getD value := by
    cases upper <;> rfl
  simp only [withEnvironment, portLayer_of_readable base readable]
  simp only [bind, Except.bind, pure, Except.pure, Except.map, withOverrides, above, layered]

theorem resolve_of_readable (base : Settings) (overrides : Overrides)
    (readable : PortReadable environment) :
    base.resolve environment overrides
      = base.validate.map fun () => base.layered environment overrides := by
  have layers := withOverrides_withEnvironment base overrides readable
  unfold resolve
  cases read : base.withEnvironment environment with
  | error error =>
      rw [read] at layers
      cases layers
  | ok between =>
      rw [read] at layers
      have same : between.withOverrides overrides = base.layered environment overrides :=
        Except.ok.inj layers
      simp only [bind, Except.bind, same, validate_layered]
      cases base.validate <;> rfl

/-- The command line cannot make up for a port that is no number. -/
theorem resolve_of_unreadable (base : Settings) (overrides : Overrides) {text : String}
    (held : environment portVariable = some text) (unreadable : port? text = none) :
    base.resolve environment overrides
      = .error (.invalidParameter portVariable (.notPort text)) := by
  simp only [resolve, withEnvironment, portLayer_of_unreadable base held unreadable]
  rfl

theorem resolve_eq_ok : base.resolve environment overrides = .ok settings ↔
    settings = base.layered environment overrides ∧ PortReadable environment ∧
      0 < base.workers ∧ 0 < base.queueCapacity := by
  by_cases readable : PortReadable environment
  · rw [resolve_of_readable base overrides readable, ← validate_eq_ok]
    cases base.validate with
    | error error => simp [Except.map]
    | ok => simp [Except.map, readable, eq_comm]
  · obtain ⟨text, held, isNone⟩ := exists_of_not_portReadable readable
    rw [resolve_of_unreadable base overrides held isNone]
    simp [readable]

/-- Both hold the same for each field that the command line leaves open. The port is read all the
same, so where it differs it is a number in both. -/
structure AlikeBelow (overrides : Overrides) (environment other : Environment) : Prop where
  same : ∀ field : Field, field.isOverridden overrides = false →
    other field.variableName = environment field.variableName
  port : other portVariable = environment portVariable ∨
    PortReadable other ∧ PortReadable environment

theorem or_congr_of_open {α : Type} {upper lower lower' : Option α}
    (same : upper.isSome = false → lower' = lower) : upper.or lower' = upper.or lower := by
  cases upper with
  | none => rw [same rfl]
  | some value => rfl

theorem AlikeBelow.layered (alike : AlikeBelow overrides environment other) (base : Settings) :
    base.layered other overrides = base.layered environment overrides := by
  have host := or_congr_of_open (alike.same .host)
  have port := or_congr_of_open fun isOpen => congrArg (·.bind port?) (alike.same .port isOpen)
  have dataDir := or_congr_of_open (alike.same .dataDir)
  have stagingDir := or_congr_of_open (alike.same .stagingDir)
  simp only [Field.variableName] at host port dataDir stagingDir
  simp only [Settings.layered, host, port, dataDir, stagingDir]

theorem AlikeBelow.resolve (alike : AlikeBelow overrides environment other) (base : Settings) :
    base.resolve other overrides = base.resolve environment overrides := by
  have ofReadable (inOther : PortReadable other) (inThis : PortReadable environment) :
      base.resolve other overrides = base.resolve environment overrides := by
    rw [resolve_of_readable base overrides inOther, resolve_of_readable base overrides inThis,
      alike.layered]
  rcases alike.port with same | ⟨inOther, inThis⟩
  · have alikeReadable : PortReadable other ↔ PortReadable environment := by
      rw [PortReadable, PortReadable, same]
    by_cases readable : PortReadable environment
    · exact ofReadable (alikeReadable.mpr readable) readable
    · obtain ⟨text, held, isNone⟩ := exists_of_not_portReadable readable
      rw [resolve_of_unreadable base overrides held isNone,
        resolve_of_unreadable base overrides (same.trans held) isNone]
  · exact ofReadable inOther inThis

/-- Another text for one overridden field, unless it is the port, leaves the environment alike. -/
theorem alikeBelow_of_field {field : Field} (overridden : field.isOverridden overrides = true)
    (notPort : field ≠ .port)
    (others : ∀ name, name ≠ field.variableName → other name = environment name) :
    AlikeBelow overrides environment other where
  same := by
    intro left isOpen
    refine others _ fun same => ?_
    rw [Field.variableName_injective same, overridden] at isOpen
    cases isOpen
  port := .inl (others (Field.variableName .port) fun same =>
    notPort (Field.variableName_injective same).symm)

/-- The settings are those of the topmost layers that give them. What the environment holds for
fields that the command line gives does not matter, with one exception: a port that is no number is
an error of its own, also where the command line has a port. -/
theorem upper_layers_decide (base : Settings) (environment : Environment)
    (overrides : Overrides) :
    (∀ settings, base.resolve environment overrides = .ok settings ↔
      settings = base.layered environment overrides ∧ PortReadable environment ∧
        0 < base.workers ∧ 0 < base.queueCapacity) ∧
    (∀ other, AlikeBelow overrides environment other →
      base.resolve other overrides = base.resolve environment overrides) ∧
    (∀ field : Field, field.isOverridden overrides = true → field ≠ .port →
      ∀ other : Environment, (∀ name, name ≠ field.variableName → other name = environment name) →
        base.resolve other overrides = base.resolve environment overrides) ∧
    ∀ text, environment portVariable = some text → port? text = none →
      base.resolve environment overrides
        = .error (.invalidParameter portVariable (.notPort text)) :=
  ⟨fun _ => resolve_eq_ok, fun _ alike => alike.resolve base,
    fun _ overridden notPort _ others =>
      (alikeBelow_of_field overridden notPort others).resolve base,
    fun _ held unreadable => resolve_of_unreadable base overrides held unreadable⟩

/-- The environment that holds this port and nothing else. -/
def onlyPort (text : String) : Environment := fun name =>
  if name = portVariable then some text else none

theorem portReadable_onlyPort {text : String} (isPort : (port? text).isSome = true) :
    PortReadable (onlyPort text) := by
  intro held same
  cases same
  exact isPort

def port9200 : Overrides := { Overrides.none with port := some 9200 }

/-- The environment holds another host and another port, both below the command line. -/
theorem upper_layers_decide_hostAndPort :
    let overrides := { port9200 with host := some "0.0.0.0" }
    let elsewhere : Environment := fun name =>
      if name = hostVariable then some "no host" else onlyPort "9100" name
    AlikeBelow overrides (onlyPort "9100") (onlyPort "+080") ∧
      default.resolve (onlyPort "+080") overrides = default.resolve (onlyPort "9100") overrides ∧
      default.resolve elsewhere overrides = default.resolve (onlyPort "9100") overrides ∧
      default.resolve (onlyPort "9100") overrides
        = .ok { default with host := "0.0.0.0", port := 9200 } := by
  intro overrides elsewhere
  have first : PortReadable (onlyPort "9100") := portReadable_onlyPort (by decide)
  have second : PortReadable (onlyPort "+080") := portReadable_onlyPort (by decide)
  have alike : AlikeBelow overrides (onlyPort "9100") (onlyPort "+080") := by
    refine ⟨fun field isOpen => ?_, .inr ⟨second, first⟩⟩
    cases field with
    | host | port => cases isOpen
    | dataDir | stagingDir => rfl
  obtain ⟨decides, same, oneField, _⟩ := upper_layers_decide default (onlyPort "9100") overrides
  exact ⟨alike, same _ alike,
    oneField .host rfl (by decide) elsewhere fun _ isOther => if_neg isOther,
    (decides _).mpr ⟨rfl, first, by decide, by decide⟩⟩

/-- Two texts for one field below the same value on the command line, one of them an error. -/
theorem overridden_port_is_read :
    Field.isOverridden port9200 .port = true ∧
      (∀ name, name ≠ Field.variableName .port →
        onlyPort "tcp://10.0.0.12:8080" name = onlyPort "9100" name) ∧
      default.resolve (onlyPort "9100") port9200 = .ok { default with port := 9200 } ∧
      default.resolve (onlyPort "tcp://10.0.0.12:8080") port9200
        = .error (.invalidParameter portVariable (.notPort "tcp://10.0.0.12:8080")) := by
  refine ⟨rfl, fun name isOther => ?_, ?_, ?_⟩
  · exact (if_neg isOther).trans (if_neg isOther).symm
  · exact resolve_eq_ok.mpr ⟨rfl, portReadable_onlyPort (by decide), by decide, by decide⟩
  · exact resolve_of_unreadable _ _ (if_pos rfl) (by decide)

end GraphEngine.Settings
