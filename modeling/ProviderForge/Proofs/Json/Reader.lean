import ProviderForge.Proofs.Json.Text

namespace ProviderForge.Json

open Document Reader Cursor

theorem hexDigits_control {point : Nat} (hcontrol : point < 32) :
    (hexDigits 4 point).length = 4 ∧
      ∃ digits, (hexDigits 4 point).mapM Text.hexValue? = some digits ∧
        digits.foldl (fun value digit => value * 16 + digit) 0 = point := by
  have hall : ∀ point < 32, (hexDigits 4 point).length = 4 ∧
      ((hexDigits 4 point).mapM Text.hexValue?).map
        (·.foldl (fun value digit => value * 16 + digit) 0) = some point := by decide +kernel
  obtain ⟨hlength, hvalue⟩ := hall point hcontrol
  exact ⟨hlength, Option.map_eq_some_iff.mp hvalue⟩

theorem escapeCharacter_control {point : Nat} (hcontrol : point < 32) :
    (∃ letter ∈ ['b', 't', 'n', 'f', 'r'], escapeCharacter (Char.ofNat point) = ['\\', letter] ∧
      simpleEscape? letter = some (Char.ofNat point)) ∨
    escapeCharacter (Char.ofNat point) = '\\' :: 'u' :: hexDigits 4 point := by
  have hall : ∀ point < 32, ['b', 't', 'n', 'f', 'r'].any (fun letter =>
        escapeCharacter (Char.ofNat point) == ['\\', letter] &&
          simpleEscape? letter == some (Char.ofNat point)) = true ∨
      escapeCharacter (Char.ofNat point) = '\\' :: 'u' :: hexDigits 4 point := by decide +kernel
  refine (hall point hcontrol).imp_left fun hany => ?_
  simpa only [List.any_eq_true, Bool.and_eq_true, beq_iff_eq] using hany

/-- A character is written as a part of a string, if not as the character then as its unit. -/
theorem escapeCharacter_spells (character : Char) :
    ∃ part, SpellsPart (escapeCharacter character) part ∧ ∀ parts,
      characters? (part :: parts) = (character :: ·) <$> characters? parts := by
  have hsimple : ∀ letter, escapeCharacter character = ['\\', letter] →
      simpleEscape? letter = some character →
      ∃ part, SpellsPart (escapeCharacter character) part ∧ ∀ parts,
        characters? (part :: parts) = (character :: ·) <$> characters? parts := by
    intro letter hwritten hmeaning
    rw [hwritten]
    exact ⟨_, .letter hmeaning, fun _ => by rw [characters?]⟩
  by_cases hquote : character = '"'
  · exact hsimple '"' (by simp [escapeCharacter, hquote]) (by simp [hquote, simpleEscape?])
  by_cases hbackslash : character = '\\'
  · exact hsimple '\\' (by simp [escapeCharacter, hbackslash]) (by simp [hbackslash, simpleEscape?])
  by_cases hcontrol : character.toNat < 32
  · have hcharacter : Char.ofNat character.toNat = character := Char.ofNat_toNat character
    obtain ⟨hlength, digits, hdigits, hvalue⟩ := hexDigits_control hcontrol
    rcases escapeCharacter_control hcontrol with ⟨letter, -, hwritten, hmeaning⟩ | hwritten
    · rw [hcharacter] at hwritten hmeaning
      exact hsimple letter hwritten hmeaning
    · rw [hcharacter] at hwritten
      have htrailing : isTrailing character.toNat ≠ true := by simp [isTrailing]; omega
      have hleading : isLeading character.toNat ≠ true := by simp [isLeading]; omega
      have hunit := SpellsPart.unit hlength hdigits
      rw [hvalue] at hunit
      rw [hwritten]
      exact ⟨_, hunit, fun _ => by rw [characters?_plain htrailing hleading, hcharacter]⟩
  · have hwritten : escapeCharacter character = [character] := by
      simp [escapeCharacter, hquote, hbackslash, Nat.le_of_not_lt hcontrol]
    rw [hwritten]
    exact ⟨_, .plain hquote hbackslash (Nat.le_of_not_lt hcontrol), fun _ => by rw [characters?]⟩

theorem quoted_spells (text : String) : SpellsString (quoted text) (some text) := by
  have hparts : ∀ characters : List Char, ∃ parts,
      SpellsParts (characters.flatMap escapeCharacter) parts ∧
        characters? parts = some characters := by
    intro characters
    induction characters with
    | nil => exact ⟨[], .nil, rfl⟩
    | cons first characters ih =>
        obtain ⟨part, hpart, hfirst⟩ := escapeCharacter_spells first
        obtain ⟨parts, hrest, hfound⟩ := ih
        exact ⟨part :: parts, .cons hpart hrest, by rw [hfirst, hfound]; rfl⟩
  obtain ⟨parts, hbody, hfound⟩ := hparts text.toList
  have hspells := SpellsString.intro hbody
  rw [hfound, Option.map_some, String.ofList_toList] at hspells
  exact hspells

theorem naturalOf_toDigits (value : Nat) : Number.naturalOf (Nat.toDigits 10 value) = value := by
  have hstep : (fun value digit => value * 10 + Number.digitValue digit) =
      fun sofar digit => 10 * sofar + (digit.toNat - '0'.toNat) := by
    funext sofar digit
    simp [Number.digitValue, Nat.mul_comm]
  rw [Number.naturalOf, hstep, ← Nat.ofDigitChars_eq_foldl]
  exact Nat.ofDigitChars_ten_toDigits

theorem head?_toDigits {value : Nat} (hpositive : 0 < value) :
    (Nat.toDigits 10 value).head? ≠ some '0' := by
  induction value using Nat.strongRecOn with
  | ind value ih =>
      by_cases hsmall : value < 10
      · have hdigit : ∀ digit < 10, 0 < digit → Nat.digitChar digit ≠ '0' := by decide
        rw [Nat.toDigits_of_lt_base hsmall]
        simpa using hdigit value hsmall hpositive
      · have hleading := ih (value / 10) (by omega) (by omega)
        rw [Nat.toDigits_of_base_le (by decide) (by omega)]
        cases hdigits : Nat.toDigits 10 (value / 10) with
        | nil => exact absurd hdigits Nat.toDigits_ne_nil
        | cons first others => simpa [hdigits] using hleading

/-- Only zero has a leading zero. -/
theorem toDigits_eq_cons (value : Nat) :
    ∃ first others, Nat.toDigits 10 value = first :: others ∧ first.isDigit = true ∧
      (first = '0' → others = []) := by
  cases hdigits : Nat.toDigits 10 value with
  | nil => exact absurd hdigits Nat.toDigits_ne_nil
  | cons first others =>
      have hfirst : first.isDigit = true :=
        Nat.isDigit_of_mem_toDigits (b := 10) (n := value) (by decide) (by decide)
          (by rw [hdigits]; exact List.mem_cons_self)
      refine ⟨first, others, rfl, hfirst, ?_⟩
      rintro rfl
      rcases Nat.eq_zero_or_pos value with rfl | hpositive
      · simpa using hdigits.symm
      · exact absurd (by rw [hdigits]; rfl) (head?_toDigits hpositive)

def Reader.IsWord64 (value : Int) : Prop :=
  -0x8000000000000000 ≤ value ∧ value < 0x10000000000000000

theorem integerValue_toDigits {value : Int} (hword : IsWord64 value) (after : Cursor) :
    integerValue (decide (value < 0)) (Nat.toDigits 10 value.natAbs) after =
      .ok (.integer value) := by
  obtain ⟨hlower, hupper⟩ := hword
  have hlimit : Number.word64Limit = 0x10000000000000000 := rfl
  simp only [integerValue, naturalOf_toDigits, hlimit]
  by_cases hnegative : value < 0
  · have hvalue : -(value.natAbs : Int) = value := by omega
    have hrange : 0 < value.natAbs ∧ value.natAbs ≤ 0x10000000000000000 / 2 := by omega
    rw [if_neg (by simp [hnegative]), if_pos ⟨by simpa using hnegative, hrange⟩, hvalue]
  · have hvalue : (value.natAbs : Int) = value := by omega
    have hrange : value.natAbs < 0x10000000000000000 := by omega
    rw [if_pos ⟨by simpa using hnegative, hrange⟩, hvalue]

theorem integerText_spells {value : Int} (hword : IsWord64 value) :
    Spells (integerText value) (.scalar (some (.integer value))) := by
  have hwhole : AreDigits (Nat.toDigits 10 value.natAbs) :=
    ⟨Nat.toDigits_ne_nil, fun _ hmem => Nat.isDigit_of_mem_toDigits (by decide) (by decide) hmem⟩
  have hzero : (Nat.toDigits 10 value.natAbs).head? = some '0' →
      Nat.toDigits 10 value.natAbs = ['0'] := by
    obtain ⟨first, others, hdigits, -, hothers⟩ := toDigits_eq_cons value.natAbs
    intro hhead
    obtain rfl : first = '0' := by simpa [hdigits] using hhead
    rw [hdigits, hothers rfl]
  have htext : ∀ isNegative, SpellsMagnitude isNegative (Nat.toDigits 10 value.natAbs)
      ⟨isNegative, Nat.toDigits 10 value.natAbs, [], none⟩ := fun isNegative => by
    have hintro : SpellsMagnitude isNegative _ _ := .intro hwhole hzero .absent .absent
    rwa [List.append_nil, List.append_nil] at hintro
  have hatom : Numeral.atom? ⟨decide (value < 0), Nat.toDigits 10 value.natAbs, [], none⟩ =
      some (.integer value) := by
    simp only [Numeral.atom?, integerValue_toDigits hword]
    rfl
  rw [← hatom, integerText]
  by_cases hnegative : value < 0
  · simp only [hnegative, if_true, decide_true]
    exact .negative (htext true)
  · simp only [hnegative, if_false, decide_false]
    exact .positive (htext false)

mutual
def source : Json → Source
  | null => .scalar (some (.absent "null"))
  | bool value => .scalar (some (.flag value))
  | integer value => .scalar (some (.integer value))
  | string value => .scalar (some (.string value))
  | array items => .array (itemSources items)
  | object members => .object (memberSources members)

def itemSources : List Json → List Source
  | [] => []
  | item :: items => item.source :: itemSources items

def memberSources : List (String × Json) → List (Option String × Source)
  | [] => []
  | (key, value) :: members => (some key, value.source) :: memberSources members
end

mutual
def HasWords : Json → Prop
  | integer value => IsWord64 value
  | array items => ItemsHaveWords items
  | object members => MembersHaveWords members
  | null | bool _ | string _ => True

def ItemsHaveWords : List Json → Prop
  | [] => True
  | item :: items => item.HasWords ∧ ItemsHaveWords items

def MembersHaveWords : List (String × Json) → Prop
  | [] => True
  | (_, value) :: members => value.HasWords ∧ MembersHaveWords members
end

theorem lineBreak_isBlank (style : Style) (level : Nat) :
    AreBlank (style.lineBreak level) := by
  intro character hmem
  cases style with
  | compact => simp [Style.lineBreak] at hmem
  | indented =>
      rcases List.mem_cons.mp hmem with rfl | hmem
      · rfl
      · rw [(List.mem_replicate.mp hmem).2]
        rfl

theorem colon_isBlank (style : Style) :
    ∃ blanks, style.colon = ':' :: blanks ∧ AreBlank blanks := by
  cases style with
  | compact => exact ⟨[], rfl, by simp [AreBlank]⟩
  | indented => exact ⟨[' '], rfl, by simp [AreBlank, isBlank]⟩

theorem Spells.padded {before text : List Char} {source : Source} (htext : Spells text source)
    (hbefore : AreBlank before) : SpellsPadded (before ++ text) source := by
  have hpadded := SpellsPadded.intro hbefore htext areBlank_nil
  rwa [List.append_nil] at hpadded

theorem quoted_spellsKey (key : String) {before : List Char} (hbefore : AreBlank before) :
    SpellsKey (before ++ quoted key) (some key) := by
  have hkey := SpellsKey.intro hbefore (quoted_spells key) areBlank_nil
  rwa [List.append_nil] at hkey

mutual
theorem write_spells (style : Style) (level : Nat) :
    (json : Json) → json.HasWords → Spells (json.write style level) json.source
  | null, _ => by
      rw [write]
      exact .null
  | bool true, _ => by
      rw [write]
      exact .yes
  | bool false, _ => by
      rw [write]
      exact .no
  | integer _, hword => by
      rw [write]
      exact integerText_spells hword
  | string text, _ => by
      rw [write]
      exact .string (quoted_spells text)
  | array [], _ => by
      rw [write]
      exact .array (.nil areBlank_nil)
  | array (item :: items), ⟨hitem, hitems⟩ => by
      have hinner := writeItems_spell style (level + 1) item items hitem hitems
        (lineBreak_isBlank style level)
      simpa [write, source] using Spells.array hinner
  | object [], _ => by
      rw [write]
      exact .object (.nil areBlank_nil)
  | object ((key, value) :: members), ⟨hvalue, hmembers⟩ => by
      have hinner := writeMembers_spell style (level + 1) key value members hvalue hmembers
        (lineBreak_isBlank style level)
      simpa [write, source] using Spells.object hinner
termination_by json => sizeOf json

theorem writeItems_spell (style : Style) (level : Nat) {blanks : List Char} :
    (item : Json) → (items : List Json) → item.HasWords → ItemsHaveWords items → AreBlank blanks →
      SpellsItems (style.lineBreak level ++ (item.write style level ++
        (writeItems style level items ++ blanks))) (itemSources (item :: items))
  | item, [], hitem, _, hblanks => by
      rw [writeItems]
      exact .last
        (.intro (lineBreak_isBlank style level) (write_spells style level item hitem) hblanks)
  | item, next :: items, hitem, ⟨hnext, hitems⟩, hblanks => by
      have hmore := SpellsItems.more
        ((write_spells style level item hitem).padded (lineBreak_isBlank style level))
        (writeItems_spell style level next items hnext hitems hblanks)
      simpa [writeItems, itemSources] using hmore
termination_by item items => sizeOf item + sizeOf items

theorem writeMembers_spell (style : Style) (level : Nat) {blanks : List Char} :
    (key : String) → (value : Json) → (members : List (String × Json)) → value.HasWords →
      MembersHaveWords members → AreBlank blanks →
      SpellsMembers (style.lineBreak level ++ (writeMember style level (key, value) ++
        (writeMembers style level members ++ blanks))) (memberSources ((key, value) :: members))
  | key, value, [], hvalue, _, hblanks => by
      obtain ⟨gap, hcolon, hgap⟩ := colon_isBlank style
      have hlast := SpellsMembers.last (quoted_spellsKey key (lineBreak_isBlank style level))
        (.intro hgap (write_spells style level value hvalue) hblanks)
      simpa [writeMember, writeMembers, memberSources, hcolon] using hlast
  | key, value, (nextKey, next) :: members, hvalue, ⟨hnext, hmembers⟩, hblanks => by
      obtain ⟨gap, hcolon, hgap⟩ := colon_isBlank style
      have hmore := SpellsMembers.more (quoted_spellsKey key (lineBreak_isBlank style level))
        ((write_spells style level value hvalue).padded hgap)
        (writeMembers_spell style level nextKey next members hnext hmembers hblanks)
      simpa [writeMember, writeMembers, memberSources, hcolon] using hmore
termination_by _ value members => sizeOf value + sizeOf members
end

mutual
theorem holds_of_shows (json : Json) {room : Nat} {document : Document}
    (hshows : Shows .text room json.source document) (hdepth : json.depth ≤ room) :
    Holds document json := by
  cases json with
  | null =>
      rw [source] at hshows
      obtain ⟨_, _, rfl⟩ := hshows.of_atom
      exact .null
  | bool =>
      rw [source] at hshows
      obtain ⟨_, _, rfl⟩ := hshows.of_atom
      exact .bool
  | integer =>
      rw [source] at hshows
      obtain ⟨_, _, rfl⟩ := hshows.of_atom
      exact .integer
  | string =>
      rw [source] at hshows
      obtain ⟨_, _, rfl⟩ := hshows.of_atom
      exact .string
  | array items =>
      rw [source] at hshows
      rw [depth] at hdepth
      cases hshows with
      | array hitems => exact .array (itemsHold_of_show items hitems (by omega))
      | lost _ hlost =>
          cases hlost
          omega
  | object members =>
      rw [source] at hshows
      rw [depth] at hdepth
      cases hshows with
      | object hmembers => exact .object (entriesHold_of_show members hmembers (by omega))
      | lost _ hlost =>
          cases hlost
          omega

theorem itemsHold_of_show (items : List Json) {room : Nat} {parts : List (Item Document)}
    (hshow : ItemsShow .text room (itemSources items) parts) (hdepth : itemsDepth items ≤ room) :
    ItemsHold parts items := by
  cases items with
  | nil =>
      rw [itemSources] at hshow
      cases hshow
      exact .nil
  | cons item items =>
      rw [itemSources] at hshow
      rw [itemsDepth] at hdepth
      cases hshow with
      | cons hitem _ hitems =>
          exact .cons (holds_of_shows item hitem (by omega))
            (itemsHold_of_show items hitems (by omega))

theorem entriesHold_of_show (members : List (String × Json)) {room : Nat}
    {entries : List (Entry Document)}
    (hshow : MembersShow .text room (memberSources members) entries)
    (hdepth : membersDepth members ≤ room) : EntriesHold entries members := by
  match members with
  | [] =>
      rw [memberSources] at hshow
      cases hshow
      exact .nil
  | (key, value) :: members =>
      rw [memberSources] at hshow
      rw [membersDepth] at hdepth
      cases hshow with
      | @cons _ _ _ entry _ _ hkey hvalue hmembers =>
          have hkeyHolds : Holds entry.key (.string key) := by
            obtain ⟨_, _, hkeyDocument⟩ := hkey.of_atom
            exact hkeyDocument ▸ .string
          exact .cons hkeyHolds (holds_of_shows value hvalue (by omega))
            (entriesHold_of_show members hmembers (by omega))
end

theorem isTextOf_write (style : Style) {json : Json} (hwords : json.HasWords) :
    IsTextOf (String.ofList (json.write style 0)) json.source := by
  rw [IsTextOf, String.toList_ofList]
  exact (write_spells style 0 json hwords).padded areBlank_nil

/-- The text of a value is read as a document that holds it, and nothing is left over. -/
theorem Reader.read_write (style : Style) {json : Json} (hwords : json.HasWords)
    (hdepth : json.depth < depthLimit) :
    ∃ document, read (json.write style 0) = (document, none) ∧ Holds document json := by
  obtain ⟨document, hread, hshows⟩ := read_spelled (isTextOf_write style hwords)
  rw [String.toList_ofList] at hread
  exact ⟨document, hread, holds_of_shows json hshows (Nat.le_sub_of_add_le hdepth)⟩

end ProviderForge.Json
