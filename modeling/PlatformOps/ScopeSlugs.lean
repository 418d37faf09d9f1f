/-
**The slugs of a scope and its canonical path.**

The path of a scope names the levels of its hierarchy and the slugs on them, with a colon between
two parts.  A slug is made of letters, digits and hyphens, and so never of a colon, whatever Unicode
counts as a letter.  So the path is cut at its colons into the parts it was made of: two scopes with
one path have the same slugs, and the organization is its second part, which is what the migration
fills an empty column with.

Main definitions:

* `CharacterTables` — what Unicode says of the characters beyond ASCII;
* `validateSlug` — the validator of a slug;
* `splitPart`, `backfilledSlug` — `split_part`, and the column that the migration fills.

Main results:

* `colon_notMem_of_validateSlug` — a slug has no colon;
* `splitOn_canonicalPath` — **a path is cut into its parts**;
* `canonical_paths_injective` — **scopes with one path have the same slugs**, and the organization
  is read back from the path.
-/

import PlatformOps.PythonText
import PlatformOps.ResourceScope
import PlatformOps.Separator

set_option relaxedAutoImplicit false
set_option autoImplicit false

namespace PlatformOps

/-! ### The validator -/

/-- What Unicode says of texts: `str.lower`, and which characters beyond ASCII are letters, or
letters, digits or numerals. -/
structure CharacterTables where
  lower : String → String
  letter : Char → Bool
  alphanumeric : Char → Bool

/-- `str.isalpha` of a character. -/
def CharacterTables.isalpha (tables : CharacterTables) (c : Char) : Bool :=
  if c.toNat < 128 then c.isAlpha else tables.letter c

/-- `str.isalnum` of a character. -/
def CharacterTables.isalnum (tables : CharacterTables) (c : Char) : Bool :=
  if c.toNat < 128 then c.isAlphanum else tables.alphanumeric c

/-- `_slug`. -/
def validateSlug (tables : CharacterTables) (value : String) : Except String String :=
  match value.toList with
  | [] => .error "scope path segments must be lowercase slugs"
  | first :: rest =>
      if 63 < value.length ∨ value ≠ tables.lower value then
        .error "scope path segments must be lowercase slugs"
      else if tables.isalpha first = false ∨
          (first :: rest).any (fun character => !(tables.isalnum character || character = '-')) then
        .error "scope path segments must use lowercase letters, digits, and hyphens"
      else .ok value

/-- The slugs of a scope, from the organization down. -/
def ResourceScope.slugs (scope : ResourceScope) : List String :=
  [scope.organization.slug, scope.businessUnit.slug, scope.team.slug, scope.project.slug,
    scope.environment.slug]

/-- The validator accepts every slug of the scope. -/
def ResourceScope.SlugsValid (tables : CharacterTables) (scope : ResourceScope) : Prop :=
  ∀ slug ∈ scope.slugs, validateSlug tables slug = .ok slug

/-! ### The parts of a path -/

/-- `split_part`: a part of a text, counted from one, or nothing if there are not so many. -/
def splitPart (text : String) (delimiter : Char) (n : ℕ) : String :=
  String.ofList ((text.toList.splitOn delimiter).getD (n - 1) [])

/-- The column `organization_slug` after the migration: it is filled from the path where it is null
or empty. -/
def backfilledSlug (organizationSlug : Option String) (canonicalPath : String) : String :=
  match organizationSlug with
  | none => splitPart canonicalPath ':' 2
  | some slug => if slug = "" then splitPart canonicalPath ':' 2 else slug

/-- The parts of the path of a scope. -/
def ResourceScope.pathParts (scope : ResourceScope) : List String :=
  ["org", scope.organization.slug, "bu", scope.businessUnit.slug, "team", scope.team.slug,
    "project", scope.project.slug, "env", scope.environment.slug]

variable {tables : CharacterTables} {value : String} {s t scope : ResourceScope}

theorem CharacterTables.isalnum_colon (tables : CharacterTables) : tables.isalnum ':' = false := by
  unfold isalnum
  rw [if_pos (by decide)]
  decide

/-- **A slug has no colon**, whatever Unicode counts as a letter. -/
theorem colon_notMem_of_validateSlug {slug : String} (h : validateSlug tables value = .ok slug) :
    ':' ∉ value.toList := by
  unfold validateSlug at h
  split at h
  · rename_i hnil
    rw [hnil]
    exact List.not_mem_nil
  · rename_i first rest hchars
    split at h
    · cases h
    · split at h
      · cases h
      · rename_i hall
        intro hmem
        rw [hchars] at hmem
        refine hall (Or.inr (List.any_eq_true.2 ⟨':', hmem, ?_⟩))
        rw [tables.isalnum_colon]
        decide

theorem canonicalPath_eq_join (scope : ResourceScope) :
    scope.canonicalPath.toList = [':'].intercalate (scope.pathParts.map String.toList) := by
  unfold ResourceScope.canonicalPath ResourceScope.pathParts
  simp [List.intercalate]

/-- The names of the levels have no colon, and the slugs have none. -/
theorem colon_notMem_pathParts (h : scope.SlugsValid tables) :
    ∀ part ∈ scope.pathParts.map String.toList, ':' ∉ part := by
  have hslug : ∀ slug ∈ scope.slugs, ':' ∉ slug.toList :=
    fun slug hmem => colon_notMem_of_validateSlug (h slug hmem)
  simp only [ResourceScope.slugs, List.mem_cons, List.not_mem_nil, or_false, forall_eq_or_imp,
    forall_eq] at hslug
  obtain ⟨horganization, hunit, hteam, hproject, henvironment⟩ := hslug
  simp only [ResourceScope.pathParts, List.map_cons, List.map_nil, List.mem_cons, List.not_mem_nil,
    or_false, forall_eq_or_imp, forall_eq]
  exact ⟨by decide, horganization, by decide, hunit, by decide, hteam, by decide, hproject,
    by decide, henvironment⟩

/-- **A path is cut into its parts.** -/
theorem splitOn_canonicalPath (h : scope.SlugsValid tables) :
    scope.canonicalPath.toList.splitOn ':' = scope.pathParts.map String.toList := by
  rw [canonicalPath_eq_join]
  exact List.splitOn_intercalate ':' (colon_notMem_pathParts h) (by simp [ResourceScope.pathParts])

/-- The second part of a path is the slug of the organization. -/
theorem splitPart_canonicalPath (h : scope.SlugsValid tables) :
    splitPart scope.canonicalPath ':' 2 = scope.organization.slug := by
  unfold splitPart
  rw [splitOn_canonicalPath h]
  simp [ResourceScope.pathParts]

/-- Scopes with one path have the same slugs. -/
theorem slugs_eq_of_canonicalPath_eq (hs : s.SlugsValid tables) (ht : t.SlugsValid tables)
    (h : s.canonicalPath = t.canonicalPath) : s.slugs = t.slugs := by
  have hparts : s.pathParts.map String.toList = t.pathParts.map String.toList := by
    rw [← splitOn_canonicalPath hs, ← splitOn_canonicalPath ht, h]
  have hsame := Separator.map_toList_injective hparts
  simp only [ResourceScope.pathParts, List.cons.injEq, true_and, and_true] at hsame
  unfold ResourceScope.slugs
  rw [hsame.1, hsame.2.1, hsame.2.2.1, hsame.2.2.2.1, hsame.2.2.2.2]

/-- **Canonical paths encode the hierarchy**: two scopes with one path have the same slugs on every
level, and the slug of the organization is read back from the path, as the migration does. -/
theorem canonical_paths_injective (tables : CharacterTables) (s t : ResourceScope)
    (hs : s.SlugsValid tables) (ht : t.SlugsValid tables) :
    (s.canonicalPath = t.canonicalPath →
      s.organization.slug = t.organization.slug ∧ s.businessUnit.slug = t.businessUnit.slug ∧
        s.team.slug = t.team.slug ∧ s.project.slug = t.project.slug ∧
          s.environment.slug = t.environment.slug) ∧
      splitPart s.canonicalPath ':' 2 = s.organization.slug ∧
      ∀ column, column = none ∨ column = some "" →
        backfilledSlug column s.canonicalPath = s.organization.slug := by
  refine ⟨fun h => ?_, splitPart_canonicalPath hs, ?_⟩
  · have hslugs := slugs_eq_of_canonicalPath_eq hs ht h
    simpa [ResourceScope.slugs] using hslugs
  · rintro column (rfl | rfl)
    · exact splitPart_canonicalPath hs
    · exact splitPart_canonicalPath hs

/-- The letters of German. -/
def germanTables : CharacterTables where
  lower text := asciiLower text
  letter c := decide (c ∈ ['ä', 'ö', 'ü', 'ß'])
  alphanumeric c := decide (c ∈ ['ä', 'ö', 'ü', 'ß'])

/-- `checkoutScope` with a project whose slug is not ASCII. -/
def munichScope (scopeId : String) (scopeId_length : 8 ≤ scopeId.length) : ResourceScope :=
  { checkoutScope with
    scopeId := scopeId
    project := { checkoutProject with slug := "münchen-2" }
    scopeId_length := scopeId_length
    project_of_team := rfl
    environment_of_project := rfl }

theorem slugsValid_munichScope (scopeId : String) (scopeId_length : 8 ≤ scopeId.length) :
    (munichScope scopeId scopeId_length).SlugsValid germanTables := by
  unfold ResourceScope.SlugsValid
  have hslugs : (munichScope scopeId scopeId_length).slugs =
      ["acme", "commerce", "payments", "münchen-2", "prod"] := rfl
  rw [hslugs]
  decide

/-- The production scope of the project in Munich, and one that is registered in its place. -/
def munichProd : ResourceScope := munichScope "scope_munich_1" (by decide)

def munichAgain : ResourceScope := munichScope "scope_munich_2" (by decide)

theorem canonicalPath_munichAgain : munichProd.canonicalPath = munichAgain.canonicalPath := by
  simp only [ResourceScope.canonicalPath, munichProd, munichAgain, munichScope]

theorem munich_paths_injective :
    (munichProd.organization.slug = munichAgain.organization.slug ∧
      munichProd.businessUnit.slug = munichAgain.businessUnit.slug ∧
        munichProd.team.slug = munichAgain.team.slug ∧
          munichProd.project.slug = munichAgain.project.slug ∧
            munichProd.environment.slug = munichAgain.environment.slug) ∧
      splitPart munichProd.canonicalPath ':' 2 = "acme" :=
  have h := canonical_paths_injective germanTables munichProd munichAgain
    (slugsValid_munichScope _ _) (slugsValid_munichScope _ _)
  ⟨h.1 canonicalPath_munichAgain, h.2.1⟩

end PlatformOps
