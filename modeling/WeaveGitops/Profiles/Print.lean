import WeaveGitops.Http.Query
import WeaveGitops.Profiles.Get

/-!
# `Get` and the profiles table

`Get` asks the cluster's service for its profiles, as `GetProfile` does, and prints them with
`printProfiles` as a table: a header line, then one line per profile with its name, its
description and its versions joined by commas, the three separated by tabs. Nothing is escaped.

`readTable` reads such a table back, as a script reading the command's output would: lines, then
tab-separated fields, then comma-separated versions. `readTable_printProfiles` is the round trip:
it gives back every profile, in order, with its name, description and versions, as long as no
name or description holds a tab or a newline and every version is non-empty and holds none of
them nor a comma (`ListedProfile.Tabular`). A version that is empty would be lost, since a
profile with the one version `""` prints the same row as a profile with none.
-/

namespace WeaveGitops.Profiles

open WeaveGitops.Go

/-- A `pb.Profile` as `printProfiles` reads it: the fields `GetProfile` reads, and the
description. -/
structure ListedProfile where
  profile : Profile
  description : GoString
  deriving DecidableEq

/-- The header `printProfiles` writes first. -/
def tableHeader : GoString := lit "NAME\tDESCRIPTION\tAVAILABLE_VERSIONS\n"

/-- The row of a profile, `fmt.Fprintf(w, "%s\t%s\t%v", p.Name, p.Description,
strings.Join(p.AvailableVersions, ","))`. -/
def profileRow (p : ListedProfile) : GoString :=
  p.profile.name ++ ch '\t' :: p.description ++
    ch '\t' :: [ch ','].intercalate p.profile.availableVersions

/-- `printProfiles`: what it writes to `w`. Each row is followed by the newline of
`fmt.Fprintln(w, "")`. -/
def printProfiles (profiles : List ListedProfile) : GoString :=
  tableHeader ++ if profiles ≠ [] then profiles.flatMap (profileRow · ++ [ch '\n']) else []

/-- `doKubeGetRequest`, given what `kubernetesDoRequest` returned and `jsonpb.UnmarshalString`
as `unmarshal`: the request's error as it is, the decoding error wrapped, or the profiles. -/
def doKubeGetRequest (unmarshal : GoString → Except GoError (List ListedProfile))
    (resp : Except GoError GoString) : Except GoError (List ListedProfile) :=
  match resp with
  | .error e => .error e
  | .ok data =>
    match unmarshal data with
    | .error e => .error ⟨lit "failed to unmarshal response: " ++ e.msg⟩
    | .ok profiles => .ok profiles

/-- `Get`, given what `doKubeGetRequest` returned: what it writes to `opts.Writer`, and the error
it returns. A failed request writes nothing. -/
def get (profilesList : Except GoError (List ListedProfile)) : GoString × Option GoError :=
  match profilesList with
  | .error e => ([], some e)
  | .ok profiles => (printProfiles profiles, none)

/-! ## Reading the table back -/

/-- A row read back: three fields between tabs, the versions between commas, none for an empty
field. -/
def readRow (line : GoString) : Option (GoString × GoString × List GoString) :=
  match line.splitOn (ch '\t') with
  | [name, description, versions] =>
    some (name, description, if versions = [] then [] else versions.splitOn (ch ','))
  | _ => none

/-- A table read back: lines, each ended by a newline, the first the header. -/
def readTable (out : GoString) : Option (List (GoString × GoString × List GoString)) :=
  if out.getLast? = some (ch '\n') then
    match out.dropLast.splitOn (ch '\n') with
    | header :: rows => if header ++ [ch '\n'] = tableHeader then rows.mapM readRow else none
    | [] => none
  else none

/-- A field the table writes as it is and can read back: no tab, no newline. -/
def Cell (s : GoString) : Prop :=
  ch '\t' ∉ s ∧ ch '\n' ∉ s

instance : DecidablePred Cell := fun s =>
  inferInstanceAs (Decidable (ch '\t' ∉ s ∧ ch '\n' ∉ s))

/-- A profile whose row reads back as it was: its name and description are cells, and each
version is a non-empty cell without a comma. -/
structure ListedProfile.Tabular (p : ListedProfile) : Prop where
  name : Cell p.profile.name
  description : Cell p.description
  versions : ∀ v ∈ p.profile.availableVersions, v ≠ [] ∧ ch ',' ∉ v ∧ Cell v

instance : DecidablePred ListedProfile.Tabular := fun p =>
  decidable_of_iff (Cell p.profile.name ∧ Cell p.description ∧
      ∀ v ∈ p.profile.availableVersions, v ≠ [] ∧ ch ',' ∉ v ∧ Cell v)
    ⟨fun ⟨hn, hd, hv⟩ => ⟨hn, hd, hv⟩, fun ⟨hn, hd, hv⟩ => ⟨hn, hd, hv⟩⟩

/-! ## The round trip -/

theorem flatMap_append_sep {α : Type} (sep : α) :
    ∀ {ls : List (List α)}, ls ≠ [] →
      ls.flatMap (· ++ [sep]) = [sep].intercalate ls ++ [sep]
  | [], h => absurd rfl h
  | [l], _ => by simp [List.intercalate]
  | l :: l' :: ls, _ => by
    rw [List.flatMap_cons, flatMap_append_sep sep (List.cons_ne_nil l' ls)]
    simp [List.intercalate]

theorem not_mem_intercalate {α : Type} {x b : α} (hbx : b ≠ x) {ls : List (List α)}
    (h : ∀ l ∈ ls, b ∉ l) : b ∉ [x].intercalate ls := fun hb => by
  rcases Http.mem_intercalate hb with rfl | ⟨l, hl, hb⟩
  exacts [hbx rfl, h l hl hb]

theorem printProfiles_eq (profiles : List ListedProfile) :
    printProfiles profiles = (lit "NAME\tDESCRIPTION\tAVAILABLE_VERSIONS" ::
      profiles.map profileRow).flatMap (· ++ [ch '\n']) := by
  rw [printProfiles, List.flatMap_cons, List.flatMap_map]
  split_ifs with h
  · rfl
  · rw [not_not.1 h]; rfl

theorem profileRow_eq (p : ListedProfile) : profileRow p = [ch '\t'].intercalate
    [p.profile.name, p.description, [ch ','].intercalate p.profile.availableVersions] := by
  simp [profileRow, List.intercalate]

/-- The three fields of a tabular profile's row hold neither tab nor newline. -/
theorem ListedProfile.Tabular.cells {p : ListedProfile} (hp : p.Tabular) :
    ∀ l ∈ [p.profile.name, p.description, [ch ','].intercalate p.profile.availableVersions],
      ch '\t' ∉ l ∧ ch '\n' ∉ l := by
  have hv (b : Byte) (hb : b ≠ ch ',') (h : ∀ v ∈ p.profile.availableVersions, b ∉ v) :
      b ∉ [ch ','].intercalate p.profile.availableVersions :=
    not_mem_intercalate hb h
  simp only [List.mem_cons, List.mem_singleton, List.not_mem_nil, or_false]
  rintro l (rfl | rfl | rfl)
  · exact hp.name
  · exact hp.description
  · exact ⟨hv _ (by decide) fun v hv => ((hp.versions v hv).2.2).1,
      hv _ (by decide) fun v hv => ((hp.versions v hv).2.2).2⟩

theorem readRow_profileRow {p : ListedProfile} (hp : p.Tabular) :
    readRow (profileRow p) =
      some (p.profile.name, p.description, p.profile.availableVersions) := by
  rw [readRow, profileRow_eq,
    List.splitOn_intercalate _ _ (fun l hl => (hp.cells l hl).1) (by simp)]
  simp only [Option.some.injEq, Prod.mk.injEq, true_and]
  rcases eq_or_ne p.profile.availableVersions [] with hnil | hne
  · rw [hnil]; rfl
  have hsplit := List.splitOn_intercalate _ (ch ',') (fun v hv => (hp.versions v hv).2.1) hne
  rw [if_neg fun h => ?_, hsplit]
  obtain ⟨v, vs, hvs⟩ := List.exists_cons_of_ne_nil hne
  rw [h, List.splitOn_nil, hvs] at hsplit
  exact (hp.versions v (hvs ▸ List.mem_cons_self v vs)).1 (List.cons.inj hsplit).1.symm

theorem mapM_readRow {profiles : List ListedProfile} (h : ∀ p ∈ profiles, p.Tabular) :
    (profiles.map profileRow).mapM readRow = some (profiles.map fun p =>
      (p.profile.name, p.description, p.profile.availableVersions)) := by
  induction profiles with
  | nil => rfl
  | cons p ps ih =>
    simp only [List.map_cons, List.mapM_cons, readRow_profileRow (h p (List.mem_cons_self p ps)),
      ih fun q hq => h q (List.mem_cons_of_mem p hq)]
    rfl

/-- **The profiles table reads back.** Whatever profiles `Get` receives, if each has a name and
a description without tab or newline and versions that are non-empty and without comma, tab or
newline, the table `printProfiles` writes reads back as those profiles, in order, each with its
name, its description and its versions. -/
theorem readTable_printProfiles {profiles : List ListedProfile} (h : ∀ p ∈ profiles, p.Tabular) :
    readTable (printProfiles profiles) = some (profiles.map fun p =>
      (p.profile.name, p.description, p.profile.availableVersions)) := by
  have hlines : ∀ l ∈ lit "NAME\tDESCRIPTION\tAVAILABLE_VERSIONS" :: profiles.map profileRow,
      ch '\n' ∉ l := by
    simp only [List.mem_cons, List.mem_map]
    rintro l (rfl | ⟨p, hp, rfl⟩)
    · decide
    · rw [profileRow_eq]
      exact not_mem_intercalate (by decide) fun l hl => ((h p hp).cells l hl).2
  rw [printProfiles_eq, flatMap_append_sep _ (List.cons_ne_nil _ _), readTable,
    List.getLast?_concat, if_pos rfl, List.dropLast_concat,
    List.splitOn_intercalate _ _ hlines (List.cons_ne_nil _ _)]
  exact (if_pos rfl).trans (mapM_readRow h)

theorem readTable_printProfiles_podinfo :
    readTable (printProfiles [⟨⟨lit "podinfo", [lit "6.0.0", lit "6.0.1"],
        some ⟨lit "weaveworks-charts", lit "flux-system"⟩⟩, lit "Podinfo profile"⟩]) =
      some [(lit "podinfo", lit "Podinfo profile", [lit "6.0.0", lit "6.0.1"])] :=
  readTable_printProfiles (by decide)

end WeaveGitops.Profiles
