import HostBridge.Config.Lookup
import HostBridge.Table

/-!
# Loading variables

What the configuration relies on when it has a file of variables loaded: the values that the file offers fill
the gaps in the environment, and nothing else happens to it. How a file is written, and how its values refer
to other variables, is for the loader to say.
-/

namespace HostBridge.Config

/-- Why a variable cannot be set, if it cannot. -/
def bindingFault? (name value : String) : Option Fault :=
  if name.contains '\x00' || value.contains '\x00' then some (.standard .value "embedded null byte")
  else if name.contains '=' then some (.standard .value "illegal environment variable name")
  else none

/-- What may come of offering values for variables. Those that are needed for gaps are set, and it fails only
over one that is needed and cannot be set. -/
structure Fill (offer : String → Option String) (environment : Variables)
    (came : Except Fault Unit × Variables) : Prop where
  /-- Variables that are set stay as they are. -/
  kept : ∀ name value, environment.lookup name = some value → came.2.lookup name = some value
  /-- No variable has another value than it had or was offered. -/
  within : ∀ name value, came.2.lookup name = some value →
    (environment.lookup name).or (offer name) = some value
  /-- Unless it fails, all gaps are filled that something was offered for. -/
  filled : came.1 = .ok () → ∀ name, came.2.lookup name = (environment.lookup name).or (offer name)
  /-- What was needed can be set then. -/
  possible : came.1 = .ok () → ∀ name value, environment.lookup name = none → offer name = some value →
    bindingFault? name value = none
  /-- It fails over a value that is needed and cannot be set. -/
  failed : ∀ fault, came.1 = .error fault → ∃ name value, environment.lookup name = none ∧
    offer name = some value ∧ bindingFault? name value = some fault

namespace Fill

variable {offer offer' : String → Option String} {environment environment' : Variables}
  {came : Except Fault Unit × Variables} {fault : Fault} {key value : String}

/-- Where every variable is set that a value is offered for, nothing needs to be done. -/
theorem idle (set : ∀ name, (offer name).isSome = true → (environment.lookup name).isSome = true) :
    Fill offer environment (.ok (), environment) where
  kept _ _ found := found
  within name value found := by rw [found, Option.some_or]
  filled _ name := by
    cases found : environment.lookup name with
    | some value => rw [Option.some_or]
    | none =>
      have nothing : offer name = none := by
        rw [← Option.not_isSome_iff_eq_none]
        intro offered
        have there := set name offered
        rw [found] at there
        cases there
      rw [nothing, Option.or_none]
  possible _ name value gap offered := by
    have there := set name (by rw [offered]; rfl)
    rw [gap] at there
    cases there
  failed _ failed := by cases failed

/-- A value that cannot be set may be needed. -/
theorem refused (gap : environment.lookup key = none) (offered : offer key = some value)
    (impossible : bindingFault? key value = some fault) :
    Fill offer environment (.error fault, environment) where
  kept _ _ found := found
  within name value found := by rw [found, Option.some_or]
  filled came := by cases came
  possible came := by cases came
  failed _ came := by
    cases came
    exact ⟨key, value, gap, offered, impossible⟩

/-- Setting one variable fills the gap there. -/
theorem put (gap : environment.lookup key = none) (allowed : bindingFault? key value = none)
    (only : ∀ name, offer name = if key = name then some value else none) :
    Fill offer environment (.ok (), Table.put environment key value) := by
  have filled (name : String) : (Table.put environment key value).lookup name =
      (environment.lookup name).or (offer name) := by
    rw [only]
    by_cases here : key = name
    · subst here
      rw [if_pos rfl, gap, Option.none_or]
      exact Table.lookup_put_self environment key value
    · rw [if_neg here, Option.or_none]
      exact Table.lookup_put_other (Ne.symm here) environment value
  refine ⟨fun name value found => ?_, fun name value found => ?_, fun _ => filled,
    fun _ name value _ offered => ?_, fun _ came => ?_⟩
  · rw [filled, found, Option.some_or]
  · rw [← filled, found]
  · rw [only] at offered
    split at offered
    · next here =>
      cases here
      cases offered
      exact allowed
    · cases offered
  · cases came

/-- More is offered after the gaps have been filled. -/
theorem andThen (first : Fill offer environment (.ok (), environment'))
    (second : Fill offer' environment' came) :
    Fill (fun name => (offer name).or (offer' name)) environment came := by
  have between := first.filled rfl
  refine ⟨fun name value found => second.kept name value (first.kept name value found),
    fun name value found => ?_, fun ok name => ?_, fun ok name value gap offered => ?_, fun fault came => ?_⟩
  · rw [← Option.or_assoc, ← between]
    exact second.within name value found
  · rw [second.filled ok, between, Option.or_assoc]
  · cases here : offer name with
    | some value' =>
      rw [here, Option.some_or] at offered
      cases offered
      exact first.possible rfl name value gap here
    | none =>
      rw [here, Option.none_or] at offered
      exact second.possible ok name value (by rw [between, gap, here, Option.none_or]) offered
  · obtain ⟨name, value, gap, offered, fault⟩ := second.failed fault came
    rw [between, Option.or_eq_none_iff] at gap
    exact ⟨name, value, gap.1, by rw [gap.2, offered, Option.none_or], fault⟩

/-- What would be offered after a failure does not count. -/
theorem cutShort (first : Fill offer environment (.error fault, environment'))
    (offer' : String → Option String) :
    Fill (fun name => (offer name).or (offer' name)) environment (.error fault, environment') where
  kept := first.kept
  within name value found := by
    rw [← Option.or_assoc, first.within name value found, Option.some_or]
  filled came := by cases came
  possible came := by cases came
  failed fault came := by
    obtain ⟨name, value, gap, offered, fault⟩ := first.failed fault came
    exact ⟨name, value, gap, by rw [offered, Option.some_or], fault⟩

end Fill

/-- What loads files of variables into the environment (`load_dotenv`). -/
structure Loader where
  /-- The value that a text gives a variable in an environment, if it gives one. -/
  value? (text : String) (environment : Variables) (name : String) : Option String
  /-- Set the variables of a text, except those that are set already. -/
  load (text : String) (environment : Variables) : Except Fault Unit × Variables
  /-- A value may refer to other variables, but whether there is one does not depend on them. -/
  isSome_value? : ∀ text environment environment' name,
    (value? text environment name).isSome = (value? text environment' name).isSome
  /-- The values of the text fill gaps. -/
  fill : ∀ text environment, Fill (value? text environment) environment (load text environment)
  /-- Where there are none, nothing is set. -/
  load_of_set : ∀ text environment,
    (∀ name, (value? text environment name).isSome = true → (environment.lookup name).isSome = true) →
      load text environment = (.ok (), environment)

end HostBridge.Config
