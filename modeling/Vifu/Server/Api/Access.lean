import Mathlib.Data.List.Infix
import Vifu.Server.Database.Tables

/-!
# Access and request texts

Who makes a request, which operations the credential allows, and the checks of texts that the handlers of
the API share.  An acting user reaches the projects that the user owns; the admin of the deployment reaches all.
-/

namespace Vifu.Server

open Foundation
open Vifu.Runtime (trim toAsciiLowercase)
open Vifu.Gateway

inductive Operation where
  | deploymentRead
  | deploymentWrite
  | projectRead
  | projectWrite
  deriving DecidableEq

inductive Identity where
  | deploymentAdmin
  | actingUser (subject issuer : String) (operations : List Operation)
  deriving DecidableEq

def permits (operations : List Operation) (operation : Operation) : Bool :=
  operations.contains operation ||
    operation == .deploymentRead && operations.contains .deploymentWrite ||
    operation == .projectRead && operations.contains .projectWrite

def requireOperation (identity : Identity) (operation : Operation) : Except ApiError Unit :=
  match identity with
  | .deploymentAdmin => .ok ()
  | .actingUser _ _ operations => ensure (permits operations operation = true) .forbidden

def requireProjectOperation (identity : Identity) (operation : Operation) (ownerUserId : Option String) :
    Except ApiError Unit := do
  requireOperation identity operation
  match identity with
  | .deploymentAdmin => .ok ()
  | .actingUser subject _ _ => ensure (ownerUserId = some subject) .forbidden

def requiredText (name value : String) (most : ℕ) : Except ApiError String :=
  let value := trim value
  if value = "" ∨ most < value.utf8ByteSize ∨ '\x00' ∈ value.toList then .error (.invalid ("invalid " ++ name))
  else .ok value

def optionalText (name : String) (value : Option String) (most : ℕ) : Except ApiError (Option String) :=
  match value.map trim with
  | none | some "" => .ok none
  | some value => (requiredText name value most).map some

def patchText (name : String) (value : Option String) (most : ℕ) : Except ApiError (Bool × Option String) :=
  match value with
  | none => .ok (false, none)
  | some value => (optionalText name (some value) most).map fun value => (true, value)

def requiredIdentifier (name value : String) : Except ApiError String := do
  (validateIdentifier name (trim value)).mapError .invalid
  return trim value

/-- `Option::map` of a check, and `transpose`. -/
def checked {α β : Type} (check : α → Except ApiError β) : Option α → Except ApiError (Option β)
  | none => .ok none
  | some value => (check value).map some

theorem ne_empty_of_requiredIdentifier {name value result : String} (accepted : requiredIdentifier name value = .ok result) :
    result ≠ "" := by
  obtain ⟨_, validates, same⟩ := bind_ok.mp accepted
  rw [mapError_ok, validateIdentifier_ok] at validates
  rw [pure_ok] at same
  rw [← same]
  intro isEmpty
  have size := validates.1
  rw [isEmpty] at size
  contradiction

/-- The loop of `slugify` over the lower-case characters. -/
def slugCharacters (slug : List Char) (separator : Bool) : List Char → List Char
  | [] => slug
  | character :: rest =>
    let next :=
      if character.isAlphanum then (if separator && !slug.isEmpty then slug ++ ['-'] else slug) ++ [character] else slug
    if 64 ≤ next.length then next else slugCharacters next (!character.isAlphanum) rest

def slugify (value : String) : String :=
  let slug := slugCharacters [] false (toAsciiLowercase (trim value)).toList
  .ofList ((slug.dropWhile (· == '-')).reverse.dropWhile (· == '-')).reverse

def validateSlug (value : String) : Bool :=
  decide (3 ≤ value.utf8ByteSize ∧ value.utf8ByteSize ≤ 64) &&
    value.toList.zipIdx.all (fun (character, index) =>
      character.isLower || character.isDigit || decide (0 < index) && character == '-') &&
    !value.toList.getLast?.any (· == '-') && !decide ("--".toList <:+: value.toList)

def validateExplicitSlug (value : String) : Except ApiError String :=
  let value := toAsciiLowercase (trim value)
  if validateSlug value then .ok value
  else .error (.invalid "slug must contain 3-64 lowercase letters, numbers, or single hyphens")

/-- `suffix` and `other` are the first eight digits of the uuids that the fallbacks draw. -/
def projectSlug (explicit : Option String) (name suffix other : String) : Except ApiError String :=
  match explicit with
  | some value => validateExplicitSlug value
  | none =>
    let value := slugify name
    let fallback := "project-" ++ if value = "" then suffix else value
    .ok (if validateSlug value then value else if validateSlug fallback then fallback else "project-" ++ other)

end Vifu.Server
