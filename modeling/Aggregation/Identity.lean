/-
**Group/version identities.**

An `Identity` names one aggregated API surface by its group and version; the core API has the
empty group. It is written in three ways:

* `display`: `group/version`, the version alone for the core API;
* `backendName`: `version.group`, the name under which a registration is kept;
* `path`: the request path it serves, read back by `ofPath?`.

Identities are ordered by group and then by version, both by code points.
-/

namespace Aggregation

/-- A group and a version naming one aggregated API surface. -/
structure Identity where
  group : String
  version : String
deriving DecidableEq, Inhabited

namespace Identity

/-- The core API of version `v1`. -/
def core : Identity := ⟨"", "v1"⟩

/-- The reader's form: `group/version`, the version alone for the core API. -/
def display (identity : Identity) : String :=
  if identity.group = "" then identity.version else identity.group ++ "/" ++ identity.version

/-- The name of a registration: `version.group`. -/
def backendName (identity : Identity) : String := identity.version ++ "." ++ identity.group

/-- The request path served: `/apis/group/version`, or `/api/version` for the core API. -/
def path (identity : Identity) : String :=
  if identity.group = "" then "/api/" ++ identity.version
  else "/apis/" ++ identity.group ++ "/" ++ identity.version

/-! ### Reading paths -/

/-- The identity that a listed path names: `/api/v1` names the core API, `/apis/group/version`
with two non-empty segments names a group, and nothing else names anything. -/
def ofPath? (path : String) : Option Identity :=
  if path = "/api/v1" then some core
  else
    match path.toList.splitOn '/' with
    | [[], ['a', 'p', 'i', 's'], group, version] =>
      if group.isEmpty || version.isEmpty then none
      else some ⟨String.ofList group, String.ofList version⟩
    | _ => none

/-! ### Order -/

/-- Group first, then version. -/
instance : Ord Identity where
  compare a b := (compare a.group b.group).then (compare a.version b.version)

theorem compare_eq (a b : Identity) :
    compare a b = (compare a.group b.group).then (compare a.version b.version) := rfl

/-- Whether an identity does not come after another one. -/
def le (a b : Identity) : Bool := (compare a b).isLE

/-- Identities in ascending order. -/
def sorted (identities : List Identity) : List Identity := identities.mergeSort le

end Identity

end Aggregation
