import Mathlib.Data.List.Sort
import WeaveGitops.Go.Json

/-!
# `GetProfile`

`GetProfile` looks for the profile of a given name among the profiles the cluster's service
lists, and picks a version of it: the one asked for when it is listed, or for `latest` the
greatest of the listed versions, which must then all parse as semantic versions. It fails when
the profile has no version or no Helm repository.

The semantic versions come from `controller.ConvertStringListToSemanticVersionList` and
`controller.SortVersions`, which are not in the repository's files. They are the parameters
`VersionLib`, with what `GetProfile` relies on them for as the laws `VersionLib.Lawful`.

`getProfile_spec` says when `GetProfile` succeeds and what it returns: a version the caller
names must be listed, and `latest` is never looked up among the listed versions, so a profile
that lists `latest` still fails on it unless it parses (`getProfile_latest_listed`).
-/

namespace WeaveGitops.Profiles

open WeaveGitops.Go

/-- `GetOptions`, by the fields `GetProfile` reads. -/
structure GetOptions where
  name : GoString
  version : GoString
  cluster : GoString
  namespace_ : GoString
  deriving DecidableEq

/-- The `HelmRepository` of a profile. -/
structure HelmRepository where
  name : GoString
  namespace_ : GoString
  deriving DecidableEq

/-- A `pb.Profile`, by the fields `GetProfile` reads; the repository may be nil. -/
structure Profile where
  name : GoString
  availableVersions : List GoString
  helmRepository : Option HelmRepository
  deriving DecidableEq

/-- `p.GetHelmRepository().GetName()`, `""` for a nil repository. -/
def Profile.repositoryName (p : Profile) : GoString :=
  (p.helmRepository.map (·.name)).getD []

/-- `p.GetHelmRepository().GetNamespace()`, `""` for a nil repository. -/
def Profile.repositoryNamespace (p : Profile) : GoString :=
  (p.helmRepository.map (·.namespace_)).getD []

/-- `foundVersion`. -/
def foundVersion (availableVersions : List GoString) (version : GoString) : Bool :=
  availableVersions.any (· == version)

/-- The semantic-version helpers `GetProfile` uses, on versions of type `V`: `semver.NewVersion`,
`controller.ConvertStringListToSemanticVersionList`, `controller.SortVersions`, and a version's
`GreaterThan` and `String`. -/
structure VersionLib (V : Type) where
  newVersion : GoString → Except GoError V
  convertStringListToSemanticVersionList : List GoString → Except GoError (List V)
  sortVersions : List V → List V
  greaterThan : V → V → Bool
  string : V → GoString

/-- What `GetProfile` relies on: the conversion parses each string in turn and fails on the
first that does not parse; the sort puts the versions in decreasing order; no version is
greater than itself. -/
structure VersionLib.Lawful {V : Type} (lib : VersionLib V) : Prop where
  convert_eq : ∀ vs, lib.convertStringListToSemanticVersionList vs = vs.mapM lib.newVersion
  sort_perm : ∀ xs, (lib.sortVersions xs).Perm xs
  sort_sorted : ∀ xs, (lib.sortVersions xs).Sorted fun a b => lib.greaterThan b a = false
  greaterThan_irrefl : ∀ x, lib.greaterThan x x = false

/-- The panic of `versions[0]` on an empty slice. -/
def indexOutOfRange : GoPanic :=
  ⟨lit "runtime error: index out of range [0] with length 0"⟩

variable {V : Type} (lib : VersionLib V) (opts : GetOptions)

/-- The `switch` of `GetProfile`: the greatest version for `latest`, otherwise the version asked
for if it is listed. -/
def pickVersion (p : Profile) : Except GoPanic (Except GoError GoString) :=
  if opts.version = lit "latest" then
    match lib.convertStringListToSemanticVersionList p.availableVersions with
    | .error e => .ok (.error e)
    | .ok versions =>
      match lib.sortVersions versions with
      | v :: _ => .ok (.ok (lib.string v))
      | [] => .error indexOutOfRange
  else if !foundVersion p.availableVersions opts.version then
    .ok (.error ⟨lit "version \x27" ++ opts.version ++ lit "\x27 not found for profile \x27" ++
      opts.name ++ lit "\x27 in " ++ opts.cluster ++ lit "/" ++ opts.namespace_⟩)
  else .ok (.ok opts.version)

/-- The body of the loop of `GetProfile` for a profile with the name asked for. -/
def getProfileOf (p : Profile) : Except GoPanic (Except GoError (Profile × GoString)) :=
  if p.availableVersions = [] then
    .ok (.error ⟨lit "no version found for profile \x27" ++ p.name ++ lit "\x27 in " ++
      opts.cluster ++ lit "/" ++ opts.namespace_⟩)
  else
    match pickVersion lib opts p with
    | .error q => .error q
    | .ok (.error e) => .ok (.error e)
    | .ok (.ok version) =>
      if p.repositoryName = [] ∨ p.repositoryNamespace = [] then
        .ok (.error ⟨lit "HelmRepository\x27s name or namespace is empty"⟩)
      else .ok (.ok (p, version))

/-- The loop of `GetProfile` over the profiles: it returns at the first with the name. -/
def getProfileLoop : List Profile → Except GoPanic (Except GoError (Profile × GoString))
  | [] => .ok (.error ⟨lit "no available profile \x27" ++ opts.name ++ lit "\x27 found in " ++
      opts.cluster ++ lit "/" ++ opts.namespace_⟩)
  | p :: ps => if p.name = opts.name then getProfileOf lib opts p else getProfileLoop ps

/-- `GetProfile`, given what `doKubeGetRequest` returned: a panic, an error, or the profile and
its version. -/
def VersionLib.getProfile (profilesList : Except GoError (List Profile)) :
    Except GoPanic (Except GoError (Profile × GoString)) :=
  match profilesList with
  | .error e => .ok (.error e)
  | .ok profiles => getProfileLoop lib opts profiles

/-! ## What `GetProfile` returns -/

theorem foundVersion_iff (vs : List GoString) (v : GoString) :
    foundVersion vs v = true ↔ v ∈ vs := by
  rw [foundVersion, List.any_eq_true]
  exact ⟨fun ⟨x, hx, e⟩ => beq_iff_eq.1 e ▸ hx, fun h => ⟨v, h, beq_self_eq_true v⟩⟩

theorem getProfileLoop_eq (profiles : List Profile) :
    getProfileLoop lib opts profiles = match profiles.find? (·.name == opts.name) with
      | some p => getProfileOf lib opts p
      | none => getProfileLoop lib opts [] := by
  induction profiles with
  | nil => rfl
  | cons p ps ih => by_cases h : p.name = opts.name <;> simp [getProfileLoop, h, ih]

omit lib opts in
theorem mapM_eq_ok {f : GoString → Except GoError V} :
    ∀ {vs : List GoString} {xs : List V}, vs.mapM f = .ok xs →
      xs.length = vs.length ∧ ∀ s ∈ vs, ∃ x, f s = .ok x
  | [], xs, h => by cases h; simp
  | s :: vs, xs, h => by
    rw [List.mapM_cons] at h
    cases hs : f s with
    | error e => rw [hs] at h; cases h
    | ok x =>
      cases hv : vs.mapM f with
      | error e => rw [hs, hv] at h; cases h
      | ok ys =>
        rw [hs, hv] at h
        cases h
        obtain ⟨hl, hall⟩ := mapM_eq_ok hv
        refine ⟨by simp [hl], fun t ht => ?_⟩
        rcases List.mem_cons.1 ht with rfl | ht
        · exact ⟨x, hs⟩
        · exact hall t ht

omit lib opts in
theorem mapM_eq_ok_of_forall {f : GoString → Except GoError V} :
    ∀ {vs : List GoString}, (∀ s ∈ vs, ∃ x, f s = .ok x) → ∃ xs, vs.mapM f = .ok xs
  | [], _ => ⟨[], rfl⟩
  | s :: vs, h => by
    obtain ⟨x, hx⟩ := h s (List.mem_cons_self s vs)
    obtain ⟨xs, hxs⟩ := mapM_eq_ok_of_forall fun t ht => h t (List.mem_cons_of_mem s ht)
    exact ⟨x :: xs, by rw [List.mapM_cons, hx, hxs]; rfl⟩

variable {lib}

/-- The first of the sorted versions is a greatest one. -/
theorem VersionLib.Lawful.head_greatest (hl : lib.Lawful) {xs : List V} {w : V} {rest : List V}
    (h : lib.sortVersions xs = w :: rest) : w ∈ xs ∧ ∀ x ∈ xs, lib.greaterThan x w = false := by
  have hp := hl.sort_perm xs
  have hs := hl.sort_sorted xs
  rw [h] at hp hs
  refine ⟨hp.subset (List.mem_cons_self w rest), fun x hx => ?_⟩
  rcases List.mem_cons.1 (hp.symm.subset hx) with rfl | hx
  · exact hl.greaterThan_irrefl x
  · exact List.rel_of_sorted_cons hs x hx

/-- What the `switch` can do for a profile with a version: for `latest`, fail as the parse of
the versions fails or return a greatest of them; otherwise fail or return the version asked
for, as it is listed or not. It never panics. -/
theorem pickVersion_cases (hl : lib.Lawful) {p : Profile} (hne : p.availableVersions ≠ []) :
    (opts.version = lit "latest" ∧ ∃ e, p.availableVersions.mapM lib.newVersion = .error e ∧
      pickVersion lib opts p = .ok (.error e)) ∨
    (opts.version = lit "latest" ∧ ∃ xs w, p.availableVersions.mapM lib.newVersion = .ok xs ∧
      w ∈ xs ∧ (∀ x ∈ xs, lib.greaterThan x w = false) ∧
      pickVersion lib opts p = .ok (.ok (lib.string w))) ∨
    (opts.version ≠ lit "latest" ∧ opts.version ∉ p.availableVersions ∧
      ∃ e, pickVersion lib opts p = .ok (.error e)) ∨
    (opts.version ≠ lit "latest" ∧ opts.version ∈ p.availableVersions ∧
      pickVersion lib opts p = .ok (.ok opts.version)) := by
  by_cases hv : opts.version = lit "latest"
  · cases hm : p.availableVersions.mapM lib.newVersion with
    | error e => exact .inl ⟨hv, e, rfl, by rw [pickVersion, if_pos hv, hl.convert_eq, hm]⟩
    | ok xs =>
      cases hsv : lib.sortVersions xs with
      | nil =>
        have h0 := (hl.sort_perm xs).length_eq
        rw [hsv, (mapM_eq_ok hm).1] at h0
        exact absurd (List.length_eq_zero.1 h0.symm) hne
      | cons w rest =>
        obtain ⟨hw, hg⟩ := hl.head_greatest hsv
        exact .inr (.inl ⟨hv, xs, w, rfl, hw, hg, by simp only [pickVersion, if_pos hv, hl.convert_eq, hm, hsv]⟩)
  · by_cases hf : opts.version ∈ p.availableVersions
    · exact .inr (.inr (.inr ⟨hv, hf, by simp [pickVersion, hv, (foundVersion_iff _ _).2 hf]⟩))
    · have : foundVersion p.availableVersions opts.version = false :=
        Bool.eq_false_iff.2 fun h => hf ((foundVersion_iff _ _).1 h)
      exact .inr (.inr (.inl ⟨hv, hf, _, by simp [pickVersion, hv, this]; rfl⟩))

/-- For a profile with the name asked for: never a panic, and success exactly when the profile
has a version and a repository and the `switch` picks a version, with the profile itself. -/
theorem getProfileOf_spec (hl : lib.Lawful) (p : Profile) :
    (∀ q, getProfileOf lib opts p ≠ .error q) ∧
    ∀ p' v, getProfileOf lib opts p = .ok (.ok (p', v)) ↔ p' = p ∧ p.availableVersions ≠ [] ∧
      pickVersion lib opts p = .ok (.ok v) ∧ p.repositoryName ≠ [] ∧ p.repositoryNamespace ≠ [] := by
  by_cases hne : p.availableVersions = []
  · simp [getProfileOf, hne]
  · obtain ⟨r, hr⟩ : ∃ r, pickVersion lib opts p = .ok r := by
      rcases pickVersion_cases opts hl hne with ⟨_, _, _, h⟩ | ⟨_, _, _, _, _, _, h⟩ | ⟨_, _, _, h⟩ |
        ⟨_, _, h⟩ <;> exact ⟨_, h⟩
    rw [getProfileOf, if_neg hne, hr]
    cases r with
    | error e => simp
    | ok v =>
      split_ifs with hrepo <;> dsimp only
      · refine ⟨fun q h => (by cases h), fun p' v' => ⟨fun h => (by cases h), ?_⟩⟩
        rintro ⟨-, -, -, hn, hs⟩
        exact absurd hrepo (not_or.2 ⟨hn, hs⟩)
      · refine ⟨fun q h => (by cases h), fun p' v' => ⟨fun h => ?_, ?_⟩⟩
        · cases h
          exact ⟨rfl, hne, rfl, not_or.1 hrepo⟩
        · rintro ⟨rfl, -, hv, -⟩
          cases hv
          rfl

/-- The `switch` picks a version exactly when the caller asks for `latest` and every listed
version parses, or asks for another version and it is listed. -/
theorem pickVersion_isOk (hl : lib.Lawful) {p : Profile} (hne : p.availableVersions ≠ []) :
    (∃ v, pickVersion lib opts p = .ok (.ok v)) ↔
      (opts.version = lit "latest" ∧ ∀ s ∈ p.availableVersions, ∃ x, lib.newVersion s = .ok x) ∨
      (opts.version ≠ lit "latest" ∧ opts.version ∈ p.availableVersions) := by
  rcases pickVersion_cases opts hl hne with ⟨hv, e, hm, h⟩ | ⟨hv, xs, w, hm, -, -, h⟩ |
    ⟨hv, hf, e, h⟩ | ⟨hv, hf, h⟩
  · refine iff_of_false (fun ⟨v, h'⟩ => by cases h.symm.trans h') ?_
    rintro (⟨-, hall⟩ | ⟨hv', -⟩)
    · obtain ⟨xs, hxs⟩ := mapM_eq_ok_of_forall hall
      cases hm.symm.trans hxs
    · exact hv' hv
  · exact iff_of_true ⟨_, h⟩ (.inl ⟨hv, (mapM_eq_ok hm).2⟩)
  · refine iff_of_false (fun ⟨v, h'⟩ => by cases h.symm.trans h') ?_
    rintro (⟨hv', -⟩ | ⟨-, hf'⟩)
    exacts [hv hv', hf hf']
  · exact iff_of_true ⟨_, h⟩ (.inr ⟨hv, hf⟩)

/-- The version the `switch` picks: the one asked for, or for `latest` the string of a greatest
parsed version. -/
theorem pickVersion_ok_value (hl : lib.Lawful) {p : Profile} (hne : p.availableVersions ≠ [])
    {v : GoString} (h : pickVersion lib opts p = .ok (.ok v)) :
    (opts.version ≠ lit "latest" → v = opts.version) ∧
    (opts.version = lit "latest" → ∃ xs w, p.availableVersions.mapM lib.newVersion = .ok xs ∧
      w ∈ xs ∧ (∀ x ∈ xs, lib.greaterThan x w = false) ∧ v = lib.string w) := by
  rcases pickVersion_cases opts hl hne with ⟨_, _, _, h'⟩ | ⟨hv, xs, w, hm, hw, hg, h'⟩ |
    ⟨_, _, _, h'⟩ | ⟨hv, _, h'⟩ <;> cases h.symm.trans h'
  · exact ⟨fun hv' => absurd hv hv', fun _ => ⟨xs, w, hm, hw, hg, rfl⟩⟩
  · exact ⟨fun _ => rfl, fun hv' => absurd hv' hv⟩

/-- **What `GetProfile` returns.** With lawful semantic-version helpers, `GetProfile` on the
profiles the service listed never panics. It succeeds exactly when some profile has the name
asked for and the first such profile has a version, a repository name and a repository
namespace, and either the caller asks for `latest` and every listed version parses, or the
caller asks for another version and it is listed. On success it returns that first profile,
with the version asked for, or for `latest` the string of a greatest parsed version. -/
theorem getProfile_spec (hl : lib.Lawful) (profiles : List Profile) :
    (∀ q, lib.getProfile opts (.ok profiles) ≠ .error q) ∧
    ((∃ p v, lib.getProfile opts (.ok profiles) = .ok (.ok (p, v))) ↔
      ∃ p, profiles.find? (·.name == opts.name) = some p ∧ p.availableVersions ≠ [] ∧
        ((opts.version = lit "latest" ∧ ∀ s ∈ p.availableVersions, ∃ x, lib.newVersion s = .ok x) ∨
          (opts.version ≠ lit "latest" ∧ opts.version ∈ p.availableVersions)) ∧
        p.repositoryName ≠ [] ∧ p.repositoryNamespace ≠ []) ∧
    ∀ p v, lib.getProfile opts (.ok profiles) = .ok (.ok (p, v)) →
      profiles.find? (·.name == opts.name) = some p ∧
      (opts.version ≠ lit "latest" → v = opts.version) ∧
      (opts.version = lit "latest" → ∃ xs w, p.availableVersions.mapM lib.newVersion = .ok xs ∧
        w ∈ xs ∧ (∀ x ∈ xs, lib.greaterThan x w = false) ∧ v = lib.string w) := by
  rw [show lib.getProfile opts (.ok profiles) = getProfileLoop lib opts profiles from rfl,
    getProfileLoop_eq]
  cases profiles.find? (·.name == opts.name) with
  | none => simp [getProfileLoop]
  | some p =>
    obtain ⟨hnp, hok⟩ := getProfileOf_spec opts hl p
    refine ⟨hnp, ⟨fun ⟨p', v, h⟩ => ?_, fun ⟨p', hp', hne, hver, hn, hs⟩ => ?_⟩, fun p' v h => ?_⟩
    · obtain ⟨rfl, hne, hv, hn, hs⟩ := (hok p' v).1 h
      exact ⟨p', rfl, hne, (pickVersion_isOk opts hl hne).1 ⟨v, hv⟩, hn, hs⟩
    · cases hp'
      obtain ⟨v, hv⟩ := (pickVersion_isOk opts hl hne).2 hver
      exact ⟨p, v, (hok p v).2 ⟨rfl, hne, hv, hn, hs⟩⟩
    · obtain ⟨rfl, hne, hv, -, -⟩ := (hok p' v).1 h
      exact ⟨rfl, pickVersion_ok_value opts hl hne hv⟩

/-! ## A lawful version library -/

/-- Version numbers as plain numbers, parsed from non-empty strings of decimal digits: a
lawful stand-in for `semver` that, like it, does not parse `latest`. -/
def natVersion (s : GoString) : Except GoError Nat :=
  if s ≠ [] ∧ s.all Json.isDigit = true then .ok (s.foldl (fun n c => 10 * n + (c.val - 0x30)) 0)
  else .error ⟨lit "Invalid Semantic Version"⟩

/-- The version library on `natVersion`, sorting in decreasing order. -/
def natVersions : VersionLib Nat where
  newVersion := natVersion
  convertStringListToSemanticVersionList vs := vs.mapM natVersion
  sortVersions xs := xs.insertionSort (· ≥ ·)
  greaterThan a b := decide (a > b)
  string n := lit (toString n)

theorem natVersions_lawful : natVersions.Lawful where
  convert_eq _ := rfl
  sort_perm xs := List.perm_insertionSort _ xs
  sort_sorted xs := (List.sorted_insertionSort (· ≥ ·) xs).imp fun h => by simpa [natVersions] using h
  greaterThan_irrefl x := by simp [natVersions]

/-- Asked for `latest` among the versions `1`, `3` and `2`, `GetProfile` returns `3`. -/
theorem getProfile_spec_latest :
    let p : Profile := ⟨lit "p", [lit "1", lit "3", lit "2"], some ⟨lit "repo", lit "ns"⟩⟩
    let o : GetOptions := ⟨lit "p", lit "latest", lit "c", lit "ns"⟩
    natVersions.Lawful ∧ natVersions.getProfile o (.ok [p]) = .ok (.ok (p, lit "3")) ∧
      ∃ xs w, p.availableVersions.mapM natVersions.newVersion = .ok xs ∧ w ∈ xs ∧
        (∀ x ∈ xs, natVersions.greaterThan x w = false) ∧ lit "3" = natVersions.string w := by
  intro p o
  have h : natVersions.getProfile o (.ok [p]) = .ok (.ok (p, lit "3")) := rfl
  exact ⟨natVersions_lawful, h, ((getProfile_spec o natVersions_lawful [p]).2.2 p _ h).2.2 rfl⟩

/-- A profile that lists `latest` among its versions, asked for `latest`, is not returned: the
version `latest` does not parse, and it is never looked up among the listed versions. -/
theorem getProfile_latest_listed :
    let p : Profile := ⟨lit "p", [lit "latest"], some ⟨lit "repo", lit "ns"⟩⟩
    let o : GetOptions := ⟨lit "p", lit "latest", lit "c", lit "ns"⟩
    natVersions.Lawful ∧ [p].find? (·.name == o.name) = some p ∧ p.availableVersions ≠ [] ∧
      o.version ∈ p.availableVersions ∧ p.repositoryName ≠ [] ∧ p.repositoryNamespace ≠ [] ∧
      natVersions.getProfile o (.ok [p]) = .ok (.error ⟨lit "Invalid Semantic Version"⟩) :=
  ⟨natVersions_lawful, rfl, by simp, by simp, by simp [Profile.repositoryName, lit],
    by simp [Profile.repositoryNamespace, lit], rfl⟩

end WeaveGitops.Profiles
