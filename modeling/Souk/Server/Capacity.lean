import Souk.Server.Handlers

/-!
# The capacity a provider announces

The hello is validated through a model which coerces what it can into an integer, and whose value
nobody keeps.  The capacity core reads from the connection is what the hello carried.
-/

namespace Souk.Server.WsProvider

open Souk.Python

/-- What `SocketProvider.__init__` keeps of its arguments, beside the queue; it checks neither. -/
structure SocketProvider where
  publicKey : Str
  maxConcurrentRuns : Value

/-- `provider_socket` from the hello to the object it hands to core. -/
def constructProvider (connect : ConnectModel) (hello : Dict) : Except Message SocketProvider :=
  match helloError connect hello with
  | some problem => .error problem
  | none => .ok
      { publicKey := helloField hello "publicKey"
        maxConcurrentRuns := Dict.get hello "maxConcurrentRuns" }

/-- The model `_hello_error` builds from a hello. -/
def connectOf (connect : ConnectModel) (hello : Dict) : Except Str (Option Int) :=
  connect.validate (helloField hello "publicKey") (helloField hello "ticket")
    (helloField hello "nonce") (helloField hello "proof") (Dict.get hello "maxConcurrentRuns")

/-- An optional integer as a value. -/
def capacity (held : Option Int) : Value := held.elim .null .int

/-- The value is `None` or an integer, and no boolean. -/
def isCapacity : Value → Bool
  | .null | .int _ => true
  | _ => false

/-- `Connect` declares `maxConcurrentRuns: int | None`, which the default mode of the library leaves
alone where it is one already. -/
structure HoldsCapacity (connect : ConnectModel) : Prop where
  null : ∀ {publicKey ticket providerNonce proof held},
    connect.validate publicKey ticket providerNonce proof .null = .ok held → held = none
  int : ∀ {publicKey ticket providerNonce proof value held},
    connect.validate publicKey ticket providerNonce proof (.int value) = .ok held →
      held = some value

/-- Core gets the capacity which the model holds. -/
def ExposesHeld (connect : ConnectModel) (hello : Dict) (provider : SocketProvider) : Prop :=
  ∃ held, connectOf connect hello = .ok held ∧ provider.maxConcurrentRuns = capacity held

section

variable {connect : ConnectModel} {hello : Dict} {provider : SocketProvider}

theorem isCapacity_capacity (held : Option Int) : isCapacity (capacity held) = true := by
  cases held <;> rfl

/-- What the construction says of the hello. -/
theorem constructProvider_eq_ok
    (constructed : constructProvider connect hello = .ok provider) :
    (∃ held, connectOf connect hello = .ok held) ∧
      provider.maxConcurrentRuns = Dict.get hello "maxConcurrentRuns" := by
  unfold constructProvider at constructed
  split at constructed
  · cases constructed
  · rename_i tolerated
    obtain rfl := Except.ok.inj constructed
    refine ⟨?_, rfl⟩
    cases validated : connectOf connect hello with
    | ok held => exact ⟨held, rfl⟩
    | error reason =>
        rw [connectOf] at validated
        rw [helloError, validated] at tolerated
        simp at tolerated

/-- A value which is a capacity already stays what it is. -/
theorem HoldsCapacity.held_eq (holds : HoldsCapacity connect) {held : Option Int}
    (validated : connectOf connect hello = .ok held)
    (raw : isCapacity (Dict.get hello "maxConcurrentRuns") = true) :
    Dict.get hello "maxConcurrentRuns" = capacity held := by
  unfold connectOf at validated
  cases announced : Dict.get hello "maxConcurrentRuns" with
  | null =>
      rw [announced] at validated
      rw [holds.null validated]
      rfl
  | int value =>
      rw [announced] at validated
      rw [holds.int validated]
      rfl
  | bool | float | str | list | dict =>
      rw [announced] at raw
      cases raw

/-- Core gets what the model holds exactly when the hello needs no coercion. -/
theorem exposesHeld_iff (holds : HoldsCapacity connect)
    (constructed : constructProvider connect hello = .ok provider) :
    ExposesHeld connect hello provider ↔
      isCapacity (Dict.get hello "maxConcurrentRuns") = true := by
  obtain ⟨⟨held, validated⟩, exposed⟩ := constructProvider_eq_ok constructed
  constructor
  · rintro ⟨other, _, same⟩
    rw [← exposed, same]
    exact isCapacity_capacity other
  · intro raw
    exact ⟨held, validated, exposed.trans (holds.held_eq validated raw)⟩

end

/-! ## A model which coerces -/

/-- The integer a string of digits spells. -/
def spelledInt (text : Str) : Option Int :=
  if text ≠ [] ∧ text.all (fun point => 0x30 ≤ point && point ≤ 0x39) then
    some (text.foldl (fun value point => 10 * value + (point.val - 0x30 : Nat)) 0)
  else none

/-- An optional integer in the default mode.  Of a string only digits are read here, where the
library also takes a sign, blanks around, underscores between and a fraction of zeros. -/
def coerceCapacity : Value → Except Str (Option Int)
  | .null => .ok none
  | .int value => .ok (some value)
  | .bool value => .ok (some (if value then 1 else 0))
  | .float (.finite value) =>
      if value.den ≠ 1 then
        .error (str "Input should be a valid integer, got a number with a fractional part")
      else if value.num.natAbs < 2 ^ 63 then .ok (some value.num)
      else .error (str "Input should be a valid integer, unable to parse string as an integer")
  | .str text =>
      match spelledInt text with
      | some value => .ok (some value)
      | none => .error (str "Input should be a valid integer, unable to parse string as an integer")
  | _ => .error (str "Input should be a valid integer")

/-- A `Connect` which polices nothing else. -/
def coercingConnect : ConnectModel where
  validate _ _ _ _ := coerceCapacity

theorem holdsCapacity_coercingConnect : HoldsCapacity coercingConnect where
  null validated := (Except.ok.inj validated).symm
  int validated := (Except.ok.inj validated).symm

/-- A hello with this capacity. -/
def helloOf (maxConcurrentRuns : Value) : Dict :=
  [(str "type", .str (str "hello")), (str "version", .int 4), (str "publicKey", .str (str "k")),
    (str "ticket", .str (str "t")), (str "nonce", .str (str "n")), (str "proof", .str (str "p")),
    (str "maxConcurrentRuns", maxConcurrentRuns)]

/-- A capacity of four runs, as an integer. -/
theorem exposesHeld_four :
    ∃ provider, constructProvider coercingConnect (helloOf (.int 4)) = .ok provider ∧
      ExposesHeld coercingConnect (helloOf (.int 4)) provider :=
  ⟨_, rfl, (exposesHeld_iff holdsCapacity_coercingConnect rfl).mpr rfl⟩

/-- The string is accepted, validated as the integer, and handed to core as the string. -/
theorem spelled_not_exposesHeld :
    ∃ provider, constructProvider coercingConnect (helloOf (.str (str "4"))) = .ok provider ∧
      connectOf coercingConnect (helloOf (.str (str "4"))) = .ok (some 4) ∧
      ¬ExposesHeld coercingConnect (helloOf (.str (str "4"))) provider := by
  refine ⟨_, rfl, rfl, ?_⟩
  rintro ⟨held, _, same⟩
  have isInt := isCapacity_capacity held
  rw [← same] at isInt
  cases isInt

end Souk.Server.WsProvider
