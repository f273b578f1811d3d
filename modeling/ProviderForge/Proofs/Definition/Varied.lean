import ProviderForge.Definition.Load
import ProviderForge.Proofs.Definition.SteadyDefinitions
import ProviderForge.Proofs.Json.Reader

namespace ProviderForge

open Json (Source IsTextOf)
open Document Result

theorem Format.parse_eq_ok {content : String} {document : Document} {definitions : Definitions}
    (hread : Json.Reader.read content.toList = (document, none)) :
    json.parse content = .ok definitions ↔
      Definitions.ofDocument .text document = .ok definitions := by
  rw [parse, decode, Json.Reader.decode, hread]
  dsimp only
  cases Definitions.ofDocument .text document with
  | ok => simp [Except.mapError]
  | error => exact iff_of_false nofun nofun

theorem Format.isOk_parse_ofList {format : Format} {text : List Char} :
    (format.parse (String.ofList text)).isOk = (format.decode text).isOk := by
  rw [parse, String.toList_ofList]
  cases format.decode text <;> rfl

/-- Texts that differ in the order of members, in members that no type declares and in members that
hold their default are read alike. -/
theorem Definitions.parse_varied {text other : String} {source varied : Source}
    (htext : IsTextOf text source) (hother : IsTextOf other varied)
    (hvaries : Varies .definitions source varied) {definitions : Definitions}
    (hparse : Format.json.parse text = .ok definitions) :
    Format.json.parse other = .ok definitions := by
  obtain ⟨document, hread, hshows⟩ := Json.Reader.read_spelled htext
  obtain ⟨copy, hcopy, hcopyShows⟩ := Json.Reader.read_spelled hother
  rw [Format.parse_eq_ok hread] at hparse
  rw [Format.parse_eq_ok hcopy]
  exact steady_ofDocument (.inl rfl) (hvaries.twins hshows hcopyShows) hparse

def Json.team (slug calls : List (String × Json)) : Json :=
  .object [("data_sources", .array [.object
    [("name", .string "team"), ("description", .string ""), ("api", .object calls),
      ("attributes", .array [.object slug])]])]

theorem Json.team_varies {slug slugVaried calls callsVaried : List (String × Json)}
    (hslug : Varies .attributeRecord (object slug).source (object slugVaried).source)
    (hcalls : Varies .dataSourceApi (object calls).source (object callsVaried).source) :
    Varies .definitions (team slug calls).source (team slugVaried callsVaried).source :=
  .object (by decide) (.keep (.array (by decide) (.cons (.object (by decide)
    (.keep .scalar (.keep .scalar (.keep hcalls (.keep
      (.array (by decide) (.cons hslug .nil)) .nil)))) (.refl _)) .nil)) .nil) (.refl _)

def Json.wordyTeam : Json :=
  team
    [("name", .string "slug"), ("description", .string ""),
      ("computed_optional_required", .string "required"), ("sensitive", .bool false),
      ("type", .string "string")]
    [("model", .string "Team"), ("read_method", .string "GetTeam"),
      ("read_strategy", .object [("kind", .string "simple")])]

def Json.briefTeam : Json :=
  team
    [("type", .string "string"), ("name", .string "slug"), ("description", .string ""),
      ("computed_optional_required", .string "required"), ("note", .null)]
    [("model", .string "Team"), ("read_method", .string "GetTeam")]

theorem Definitions.parse_briefTeam :
    ∃ definitions, Format.json.parse Json.wordyTeam.compact = .ok definitions ∧
      Format.json.parse Json.briefTeam.indented = .ok definitions := by
  have hwordy : Json.wordyTeam.HasWords := by
    simp [Json.wordyTeam, Json.team, Json.HasWords, Json.ItemsHaveWords, Json.MembersHaveWords]
  have hbrief : Json.briefTeam.HasWords := by
    simp [Json.briefTeam, Json.team, Json.HasWords, Json.ItemsHaveWords, Json.MembersHaveWords]
  have hvaries : Varies .definitions Json.wordyTeam.source Json.briefTeam.source :=
    Json.team_varies
      (.object (by decide)
        (.keep .scalar (.keep .scalar (.keep .scalar (.leave .off (.keep .scalar
          (.add (by decide) .null .nil))))))
        (@List.perm_middle _ _ [_, _, _] [_]))
      (.object (by decide)
        (.keep .scalar (.keep .scalar (.leave (.simpleMembers List.mem_cons_self) .nil)))
        (.refl _))
  have hok : (Format.json.parse Json.wordyTeam.compact).isOk = true := by
    rw [Json.compact, Format.isOk_parse_ofList]
    decide +kernel
  obtain ⟨definitions, hparse⟩ := isOk_iff.mp hok
  exact ⟨definitions, hparse, parse_varied (Json.isTextOf_write .compact hwordy)
    (Json.isTextOf_write .indented hbrief) hvaries hparse⟩

def Json.requiringTeam (requiredness : List (String × Json)) : Json :=
  team
    [("name", .string "slug"), ("description", .string ""),
      ("computed_optional_required", .object requiredness), ("type", .string "string")]
    [("model", .string "Team"), ("read_method", .string "GetTeam")]

/-- Where an object stands for a choice, a member that no type declares is refused. -/
theorem Definitions.requiredness_refuses_note :
    (∀ slot : Slot, "note" ∉ slot.names) ∧
      (∃ definitions, Format.json.parse (Json.requiringTeam [("required", .null)]).compact =
        .ok definitions) ∧
      ¬∃ definitions, Format.json.parse
        (Json.requiringTeam [("required", .null), ("note", .null)]).compact = .ok definitions := by
  simp only [← isOk_iff, Json.compact, Format.isOk_parse_ofList]
  refine ⟨fun slot => ?_, by decide +kernel, by decide +kernel⟩
  cases slot with
  | list => exact List.not_mem_nil
  | _ => decide

end ProviderForge
