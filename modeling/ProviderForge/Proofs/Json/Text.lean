import Mathlib.Data.List.DropRight
import ProviderForge.Proofs.Document.Shows
import ProviderForge.Proofs.Json.Lexeme

namespace ProviderForge.Json

open Document Reader Cursor

theorem SpellsString.exists_cons {text : List Char} {value : Option String}
    (htext : SpellsString text value) : ∃ others, text = '"' :: others := by
  cases htext
  exact ⟨_, rfl⟩

theorem Spells.exists_cons {text : List Char} {source : Source} (htext : Spells text source) :
    ∃ first others, text = first :: others ∧ isBlank first = false ∧ first ≠ ']' := by
  cases htext with
  | positive htext =>
      cases htext with
      | intro hwhole =>
          obtain ⟨first, others, rfl, hfirst⟩ := hwhole.exists_cons
          refine ⟨first, _, rfl, ?_, ?_⟩
          · cases hblank : isBlank first with
            | false => rfl
            | true =>
                simp only [isBlank, Bool.or_eq_true, beq_iff_eq] at hblank
                rcases hblank with ((rfl | rfl) | rfl) | rfl <;> cases hfirst
          · rintro rfl
            cases hfirst
  | string htext =>
      obtain ⟨others, rfl⟩ := htext.exists_cons
      exact ⟨_, _, rfl, by decide, by decide⟩
  | null => exact ⟨_, _, rfl, by decide, by decide⟩
  | yes => exact ⟨_, _, rfl, by decide, by decide⟩
  | no => exact ⟨_, _, rfl, by decide, by decide⟩
  | negative => exact ⟨_, _, rfl, by decide, by decide⟩
  | array => exact ⟨_, _, rfl, by decide, by decide⟩
  | object => exact ⟨_, _, rfl, by decide, by decide⟩

theorem SpellsPadded.exists_append {text : List Char} {source : Source}
    (htext : SpellsPadded text source) :
    ∃ blanks first others, text = blanks ++ first :: others ∧ AreBlank blanks ∧
      isBlank first = false ∧ first ≠ ']' := by
  cases htext with
  | @intro before _ after _ hbefore htext =>
      obtain ⟨first, others, rfl, hblank, hfirst⟩ := htext.exists_cons
      exact ⟨before, first, others ++ after, rfl, hbefore, hblank, hfirst⟩

theorem SpellsItems.exists_append {text : List Char} {item : Source} {items : List Source}
    (htext : SpellsItems text (item :: items)) :
    ∃ blanks first others, text = blanks ++ first :: others ∧ AreBlank blanks ∧
      isBlank first = false ∧ first ≠ ']' := by
  cases htext with
  | last hitem => exact hitem.exists_append
  | @more _ rest _ _ _ hitem =>
      obtain ⟨blanks, first, others, rfl, hblanks, hblank, hfirst⟩ := hitem.exists_append
      exact ⟨blanks, first, others ++ ',' :: rest, by simp, hblanks, hblank, hfirst⟩

theorem SpellsKey.exists_append {text : List Char} {name : Option String}
    (htext : SpellsKey text name) :
    ∃ blanks others, text = blanks ++ '"' :: others ∧ AreBlank blanks := by
  cases htext with
  | @intro before _ after _ hbefore htext =>
      obtain ⟨others, rfl⟩ := htext.exists_cons
      exact ⟨before, others ++ after, rfl, hbefore⟩

theorem SpellsMembers.exists_append {text : List Char} {member : Option String × Source}
    {members : List (Option String × Source)} (htext : SpellsMembers text (member :: members)) :
    ∃ blanks others, text = blanks ++ '"' :: others ∧ AreBlank blanks := by
  cases htext with
  | @last _ text _ _ hkey =>
      obtain ⟨blanks, others, rfl, hblanks⟩ := hkey.exists_append
      exact ⟨blanks, others ++ ':' :: text, by simp, hblanks⟩
  | @more _ text rest _ _ _ _ hkey =>
      obtain ⟨blanks, others, rfl, hblanks⟩ := hkey.exists_append
      exact ⟨blanks, others ++ ':' :: (text ++ ',' :: rest), by simp, hblanks⟩

namespace Reader

theorem Cursor.rest_skipBlanks_append {cursor : Cursor} {blanks text : List Char}
    (hrest : cursor.rest = blanks ++ text) (hblanks : AreBlank blanks)
    (htext : ∀ character ∈ text.head?, isBlank character = false) :
    cursor.skipBlanks.rest = text := by
  rw [rest_skipBlanks, hrest, List.dropWhile_append_of_pos hblanks]
  cases text with
  | nil => rfl
  | cons first text => simp [htext first (by simp)]

theorem Cursor.rest_skipBlanks_skipBlanks (cursor : Cursor) :
    cursor.skipBlanks.skipBlanks.rest = cursor.skipBlanks.rest := by
  rw [rest_skipBlanks, rest_skipBlanks, List.dropWhile_idempotent]

theorem EndsNumber.cons {first : Char} {rest : List Char}
    (hfirst : (first.isDigit || ['.', 'e', 'E'].contains first) = false) :
    EndsNumber (first :: rest) := by
  intro character hmem
  obtain rfl : first = character := by simpa using hmem
  simpa [and_assoc] using hfirst

theorem EndsNumber.blanks {blanks rest : List Char} (hblanks : AreBlank blanks)
    (hrest : EndsNumber rest) : EndsNumber (blanks ++ rest) := by
  cases blanks with
  | nil => exact hrest
  | cons first blanks =>
      have hfirst := hblanks first (by simp)
      simp only [isBlank, Bool.or_eq_true, beq_iff_eq] at hfirst
      rcases hfirst with ((rfl | rfl) | rfl) | rfl <;> exact .cons rfl

/-- How many brackets may still be open at a depth. -/
def roomAt (depth : Nat) : Nat :=
  depthLimit - (depth + 1)

theorem Reading.Gives.ofReading {reading : Reading Atom} {value : Option Atom} {rest : List Char}
    (hgives : reading.Gives value rest) (start : Cursor) (choosing : Option Fault) (room : Nat) :
    ∃ document after, Reader.ofReading start reading choosing = (document, some after) ∧
      Shows .text room (.scalar value) document ∧ after.rest = rest := by
  obtain ⟨after, hcontinued, hafter, hdecoded⟩ := hgives
  obtain ⟨decoded, continued⟩ := reading
  cases decoded with
  | ok atom =>
      obtain rfl : some atom = value := hdecoded
      obtain rfl : continued = .ok after := hcontinued
      exact ⟨_, after, rfl, .scalar, hafter⟩
  | error fault =>
      obtain rfl : none = value := hdecoded
      obtain rfl : continued = .ok after := hcontinued
      exact ⟨_, after, rfl, .lost rfl .scalar rfl rfl, hafter⟩

theorem ofString_spelled (fuel room : Nat) {cursor : Cursor} {text rest : List Char}
    {name : Option String} (htext : SpellsString text name) (hfuel : text.length ≤ fuel)
    (hrest : cursor.rest = text ++ rest) :
    ∃ inner document after, cursor.rest = '"' :: inner ∧
      ofString cursor (string fuel cursor.next) = (document, some after) ∧
      Shows .text room (.scalar (name.map .string)) document ∧ after.rest = rest := by
  obtain ⟨inner, hquote, last, hcontinued, hlast, hdecoded⟩ :=
    string_spelled fuel htext hfuel hrest
  have hgives : Reading.Gives
      ⟨Atom.string <$> (string fuel cursor.next).decoded, (string fuel cursor.next).continued⟩
      (name.map .string) rest :=
    ⟨last, hcontinued, hlast, by
      rw [← hdecoded]
      cases (string fuel cursor.next).decoded <;> rfl⟩
  obtain ⟨document, after, hread, hshows, hafter⟩ := hgives.ofReading cursor none room
  exact ⟨inner, document, after, hquote, hread, hshows, hafter⟩

theorem value_word (fuel depth room : Nat) {cursor : Cursor} {first : Char}
    {letters rest : List Char} {atom : Atom}
    (hrest : cursor.skipBlanks.rest = first :: letters ++ rest)
    (hvalue : value (fuel + 1) depth cursor =
      ofWord cursor.skipBlanks atom (word cursor.skipBlanks.next letters)) :
    ∃ document after, value (fuel + 1) depth cursor = (document, some after) ∧
      Shows .text room (.scalar (some atom)) document ∧ after.rest = rest := by
  obtain ⟨after, hword, hafter⟩ := word_written (rest_next hrest)
  exact ⟨_, after, by rw [hvalue, hword, ofWord], .scalar, hafter⟩

theorem value_digit {fuel depth : Nat} {cursor : Cursor} {first : Char} {rest : List Char}
    (hrest : cursor.skipBlanks.rest = first :: rest) (hfirst : first.isDigit = true) :
    value (fuel + 1) depth cursor =
      ofReading cursor.skipBlanks (magnitude false cursor.skipBlanks)
        (some (cursor.skipBlanks.ahead .expectedValue)) := by
  rw [value, hrest]
  split
  all_goals simp_all

theorem limitDepth_shows {depth : Nat} {start : Cursor} {parsed : Parsed} {source : Source}
    (hshows : depth + 1 < depthLimit → Shows .text (roomAt depth) source parsed.1)
    (hlost : depthLimit ≤ depth + 1 → Source.IsLost (roomAt depth) source)
    (hskip : parsed.1.skipFault? = none) :
    ∃ document, limitDepth depth start parsed = (document, parsed.2) ∧
      Shows .text (roomAt depth) source document := by
  by_cases hdepth : depth + 1 < depthLimit
  · exact ⟨parsed.1, by simp [limitDepth, hdepth], hshows hdepth⟩
  · refine ⟨_, by rw [limitDepth, if_neg hdepth], .lost rfl (hlost (by omega)) hskip rfl⟩

theorem roomAt_of_lt {depth : Nat} (hdepth : depth + 1 < depthLimit) :
    roomAt depth = roomAt (depth + 1) + 1 := by
  unfold roomAt
  omega

theorem roomAt_of_le {depth : Nat} (hdepth : depthLimit ≤ depth + 1) : roomAt depth = 0 := by
  unfold roomAt
  omega

theorem value_list {fuel depth : Nat} {cursor after : Cursor} {inner : List Char}
    {items : List Source} {parts : List (Item Document)} {location : Option Location}
    (hrest : cursor.skipBlanks.rest = '[' :: inner)
    (hparts : firstItem fuel (depth + 1) cursor.skipBlanks.next.skipBlanks =
      ⟨parts, .closed location, some after⟩)
    (hshow : ItemsShow .text (roomAt (depth + 1)) items parts) :
    ∃ document, value (fuel + 1) depth cursor = (document, some after) ∧
      Shows .text (roomAt depth) (.array items) document := by
  rw [value, hrest]
  simp only [hparts]
  refine limitDepth_shows (fun hdepth => ?_) (fun hdepth => ?_) ?_
  · rw [roomAt_of_lt hdepth]
    exact .array hshow
  · rw [roomAt_of_le hdepth]
    exact .array
  · change (itemsSkipFault? parts).or none = none
    rw [hshow.skipFault?_eq]
    rfl

theorem value_record {fuel depth : Nat} {cursor after : Cursor} {inner : List Char}
    {members : List (Option String × Source)} {entries : List (Entry Document)}
    {location : Option Location} (hrest : cursor.skipBlanks.rest = '\x7b' :: inner)
    (hparts : firstMember fuel (depth + 1) cursor.skipBlanks.next.skipBlanks =
      ⟨entries, .closed location, some after⟩)
    (hshow : MembersShow .text (roomAt (depth + 1)) members entries) :
    ∃ document, value (fuel + 1) depth cursor = (document, some after) ∧
      Shows .text (roomAt depth) (.object members) document := by
  rw [value, hrest]
  simp only [hparts]
  refine limitDepth_shows (fun hdepth => ?_) (fun hdepth => ?_) ?_
  · rw [roomAt_of_lt hdepth]
    exact .object hshow
  · rw [roomAt_of_le hdepth]
    exact .object
  · change (entriesSkipFault? entries).or none = none
    rw [hshow.skipFault?_eq]
    rfl

theorem firstItem_closed {fuel depth : Nat} {cursor : Cursor} {rest : List Char}
    (hrest : cursor.rest = ']' :: rest) :
    firstItem (fuel + 1) depth cursor = .closed cursor.next := by
  rw [firstItem, hrest]
  rfl

theorem firstItem_items {fuel depth : Nat} {cursor : Cursor} {first : Char} {rest : List Char}
    (hrest : cursor.rest = first :: rest) (hfirst : first ≠ ']') :
    firstItem (fuel + 1) depth cursor = items fuel depth cursor := by
  rw [firstItem, hrest]
  split
  next heq => simp at heq
  next heq => exact absurd (List.cons.inj heq).1 hfirst
  next => rfl

section

variable {fuel depth : Nat} {cursor after : Cursor} {document : Document} {rest : List Char}

theorem items_last (hvalue : value fuel depth cursor = (document, some after))
    (hrest : after.skipBlanks.rest = ']' :: rest) :
    ∃ item, item.value = document ∧ item.surplus = none ∧
      items (fuel + 1) depth cursor = .cons item (.closed after.skipBlanks.next) := by
  refine ⟨⟨document, some (itemLocation after.skipBlanks), surplusFault? after.skipBlanks⟩, rfl,
    ?_, ?_⟩
  · simp only [surplusFault?, hrest]
  · rw [items, hvalue]
    simp only [hrest]

theorem items_more {first : Char} {more : List Char}
    (hvalue : value fuel depth cursor = (document, some after))
    (hrest : after.skipBlanks.rest = ',' :: more)
    (hnext : after.skipBlanks.next.skipBlanks.rest = first :: rest) (hfirst : first ≠ ']') :
    ∃ item, item.value = document ∧ item.surplus ≠ none ∧ items (fuel + 1) depth cursor =
      .cons item (items fuel depth after.skipBlanks.next.skipBlanks) := by
  refine ⟨⟨document, some (itemLocation after.skipBlanks), surplusFault? after.skipBlanks⟩, rfl,
    ?_, ?_⟩
  · simp only [surplusFault?, hrest]
    split <;> simp
  · rw [items, hvalue]
    simp only [hrest, hnext]
    split
    next heq => simp at heq
    next heq => exact absurd (List.cons.inj heq).1 hfirst
    next => rfl

theorem firstMember_closed (hrest : cursor.rest = '\x7d' :: rest) :
    firstMember (fuel + 1) depth cursor = .closed cursor.next := by
  rw [firstMember, hrest]
  rfl

theorem firstMember_members (hrest : cursor.rest = '"' :: rest) :
    firstMember (fuel + 1) depth cursor = members fuel depth cursor := by
  rw [firstMember, hrest]
  rfl

/-! Members are read with their keys; what is said of a value is said behind its colon. -/

variable {key : Document} {afterKey : Cursor} {colon : List Char}

theorem members_last (hkey : ofString cursor (string (fuel + 1) cursor.next) = (key, some afterKey))
    (hcolon : afterKey.skipBlanks.rest = ':' :: colon)
    (hvalue : value fuel depth afterKey.skipBlanks.next = (document, some after))
    (hrest : after.skipBlanks.rest = '\x7d' :: rest) :
    ∃ entry, entry.key = key ∧ entry.value = document ∧
      members (fuel + 1) depth cursor = .cons entry (.closed after.skipBlanks.next) := by
  refine ⟨⟨key, document, some (memberLocation afterKey.skipBlanks),
    some (memberLocation after.skipBlanks)⟩, rfl, rfl, ?_⟩
  rw [members, hkey]
  simp only [hcolon, hvalue, hrest]

theorem members_more (hkey : ofString cursor (string (fuel + 1) cursor.next) = (key, some afterKey))
    (hcolon : afterKey.skipBlanks.rest = ':' :: colon)
    (hvalue : value fuel depth afterKey.skipBlanks.next = (document, some after))
    {more : List Char} (hrest : after.skipBlanks.rest = ',' :: more)
    (hnext : after.skipBlanks.next.skipBlanks.rest = '"' :: rest) :
    ∃ entry, entry.key = key ∧ entry.value = document ∧
      members (fuel + 1) depth cursor =
        .cons entry (members fuel depth after.skipBlanks.next.skipBlanks) := by
  refine ⟨⟨key, document, some (memberLocation afterKey.skipBlanks),
    some (memberLocation after.skipBlanks)⟩, rfl, rfl, ?_⟩
  rw [members, hkey]
  simp only [hcolon, hvalue, hrest, hnext]

end

theorem key_spelled (fuel room : Nat) {cursor : Cursor} {text rest : List Char}
    {name : Option String} (htext : SpellsKey text name) (hfuel : text.length ≤ fuel)
    (hrest : cursor.rest = text ++ ':' :: rest) :
    ∃ key after,
      ofString cursor.skipBlanks (string fuel cursor.skipBlanks.next) = (key, some after) ∧
      Shows .text room (.scalar (name.map .string)) key ∧
      after.skipBlanks.rest = ':' :: rest := by
  cases htext with
  | @intro before text behind _ hbefore htext hbehind =>
      obtain ⟨others, hquote⟩ := htext.exists_cons
      have hstart : cursor.skipBlanks.rest = text ++ (behind ++ ':' :: rest) :=
        rest_skipBlanks_append (by rw [hrest]; simp) hbefore (by simp [hquote, isBlank])
      simp only [List.length_append] at hfuel
      obtain ⟨_, key, after, -, hread, hshows, hafter⟩ :=
        ofString_spelled fuel room htext (by omega) hstart
      exact ⟨key, after, hread, hshows, rest_skipBlanks_append hafter hbehind (by simp [isBlank])⟩

/-! Any text is read, by induction on the fuel, which the length of the text bounds. -/

mutual
theorem value_spelled (fuel depth : Nat) {cursor : Cursor} {text rest : List Char}
    {source : Source} (htext : Spells text source) (hfuel : 3 * text.length ≤ fuel)
    (hrest : cursor.skipBlanks.rest = text ++ rest) (hends : EndsNumber rest) :
    ∃ document after, value fuel depth cursor = (document, some after) ∧
      Shows .text (roomAt depth) source document ∧ after.rest = rest := by
  have hpositive : 0 < text.length := by
    obtain ⟨first, others, rfl, -⟩ := htext.exists_cons
    exact Nat.succ_pos _
  obtain ⟨fuel, rfl⟩ : ∃ less, fuel = less + 1 := ⟨fuel - 1, by omega⟩
  cases htext with
  | null => exact value_word fuel depth _ hrest (by rw [value, hrest]; rfl)
  | yes => exact value_word fuel depth _ hrest (by rw [value, hrest]; rfl)
  | no => exact value_word fuel depth _ hrest (by rw [value, hrest]; rfl)
  | positive htext =>
      have hgives := magnitude_spelled htext hrest hends
      cases htext with
      | intro hwhole =>
          obtain ⟨first, others, rfl, hfirst⟩ := hwhole.exists_cons
          rw [value_digit hrest hfirst]
          exact hgives.ofReading _ _ _
  | negative htext =>
      have hgives := magnitude_spelled htext (rest_next hrest) hends
      rw [value, hrest]
      exact hgives.ofReading _ _ _
  | string htext =>
      obtain ⟨inner, document, after, hquote, hread, hshows, hafter⟩ :=
        ofString_spelled (fuel + 1) (roomAt depth) htext (by omega) hrest
      refine ⟨document, after, ?_, hshows, hafter⟩
      rw [value, hquote]
      exact hread
  | @array inner items hitems =>
      have hopened : cursor.skipBlanks.rest = '[' :: (inner ++ ']' :: rest) := by
        simpa using hrest
      simp only [List.length_append, List.length_cons] at hfuel
      obtain ⟨fuel, rfl⟩ : ∃ less, fuel = less + 1 := ⟨fuel - 1, by omega⟩
      cases items with
      | nil =>
          cases hitems with
          | nil hblanks =>
              have hclosed :=
                rest_skipBlanks_append (rest_next hopened) hblanks (by simp [isBlank])
              obtain ⟨document, hread, hshows⟩ :=
                value_list hopened (firstItem_closed hclosed) .nil
              exact ⟨document, _, hread, hshows, rest_next hclosed⟩
      | cons item items =>
          obtain ⟨parts, after, hparts, hshow, hafter⟩ :=
            items_spelled fuel (depth + 1) hitems (by omega) (rest_next hopened)
          obtain ⟨blanks, first, others, rfl, hblanks, hblank, hfirst⟩ := hitems.exists_append
          have hstart : cursor.skipBlanks.next.skipBlanks.rest = first :: (others ++ ']' :: rest) :=
            rest_skipBlanks_append (by rw [rest_next hopened]; simp) hblanks (by simp [hblank])
          rw [← firstItem_items hstart hfirst] at hparts
          obtain ⟨document, hread, hshows⟩ := value_list hopened hparts hshow
          exact ⟨document, after, hread, hshows, hafter⟩
  | @object inner members hmembers =>
      have hopened : cursor.skipBlanks.rest = '\x7b' :: (inner ++ '\x7d' :: rest) := by
        simpa using hrest
      simp only [List.length_append, List.length_cons] at hfuel
      obtain ⟨fuel, rfl⟩ : ∃ less, fuel = less + 1 := ⟨fuel - 1, by omega⟩
      cases members with
      | nil =>
          cases hmembers with
          | nil hblanks =>
              have hclosed :=
                rest_skipBlanks_append (rest_next hopened) hblanks (by simp [isBlank])
              obtain ⟨document, hread, hshows⟩ :=
                value_record hopened (firstMember_closed hclosed) .nil
              exact ⟨document, _, hread, hshows, rest_next hclosed⟩
      | cons member members =>
          obtain ⟨entries, after, hentries, hshow, hafter⟩ :=
            members_spelled fuel (depth + 1) hmembers (by omega) (rest_next hopened)
          obtain ⟨blanks, others, rfl, hblanks⟩ := hmembers.exists_append
          have hstart : cursor.skipBlanks.next.skipBlanks.rest =
              '"' :: (others ++ '\x7d' :: rest) :=
            rest_skipBlanks_append (by rw [rest_next hopened]; simp) hblanks (by simp [isBlank])
          rw [← firstMember_members hstart] at hentries
          obtain ⟨document, hread, hshows⟩ := value_record hopened hentries hshow
          exact ⟨document, after, hread, hshows, hafter⟩
termination_by (fuel, 0)

theorem value_padded (fuel depth : Nat) {cursor : Cursor} {text rest : List Char}
    {source : Source} (htext : SpellsPadded text source) (hfuel : 3 * text.length ≤ fuel)
    (hrest : cursor.skipBlanks.rest = (text ++ rest).dropWhile isBlank)
    (hends : EndsNumber rest) (hblank : ∀ character ∈ rest.head?, isBlank character = false) :
    ∃ document after, value fuel depth cursor = (document, some after) ∧
      Shows .text (roomAt depth) source document ∧ after.skipBlanks.rest = rest := by
  cases htext with
  | @intro before text behind _ hbefore htext hbehind =>
      have hstart : cursor.skipBlanks.rest = text ++ (behind ++ rest) := by
        obtain ⟨first, others, rfl, hfirst, -⟩ := htext.exists_cons
        rw [hrest, List.append_assoc, List.dropWhile_append_of_pos hbefore]
        simp [hfirst]
      simp only [List.length_append] at hfuel
      obtain ⟨document, after, hread, hshows, hafter⟩ :=
        value_spelled fuel depth htext (by omega) hstart (.blanks hbehind hends)
      exact ⟨document, after, hread, hshows, rest_skipBlanks_append hafter hbehind hblank⟩
termination_by (fuel, 1)

theorem items_spelled (fuel depth : Nat) {cursor : Cursor} {text rest : List Char}
    {item : Source} {items : List Source} (htext : SpellsItems text (item :: items))
    (hfuel : 3 * text.length < fuel) (hrest : cursor.rest = text ++ ']' :: rest) :
    ∃ parts after, Reader.items fuel depth cursor.skipBlanks =
        ⟨parts, .closed (some after.location), some after⟩ ∧
      ItemsShow .text (roomAt depth) (item :: items) parts ∧ after.rest = rest := by
  obtain ⟨fuel, rfl⟩ : ∃ less, fuel = less + 1 := ⟨fuel - 1, by omega⟩
  have hskipped := rest_skipBlanks_skipBlanks cursor
  rw [rest_skipBlanks cursor, hrest] at hskipped
  cases htext with
  | last hitem =>
      obtain ⟨document, after, hvalue, hshows, hclosed⟩ :=
        value_padded fuel depth hitem (by omega) hskipped (.cons rfl) (by simp [isBlank])
      obtain ⟨part, rfl, hsurplus, hparts⟩ := items_last hvalue hclosed
      exact ⟨[part], _, hparts, .cons hshows (fun _ => by simp [hsurplus]) .nil, rest_next hclosed⟩
  | @more text others _ next items hitem hitems =>
      simp only [List.length_append, List.length_cons] at hfuel
      rw [List.append_assoc] at hskipped
      obtain ⟨document, after, hvalue, hshows, hcomma⟩ :=
        value_padded fuel depth hitem (by omega) hskipped (.cons rfl) (by simp [isBlank])
      have hothers : after.skipBlanks.next.rest = others ++ ']' :: rest := rest_next hcomma
      obtain ⟨parts, last, hmore, hmoreShow, hlast⟩ :=
        items_spelled fuel depth hitems (by omega) hothers
      obtain ⟨blanks, first, tail, rfl, hblanks, hblank, hfirst⟩ := hitems.exists_append
      have hfollowing : after.skipBlanks.next.skipBlanks.rest = first :: (tail ++ ']' :: rest) :=
        rest_skipBlanks_append (by rw [hothers]; simp) hblanks (by simp [hblank])
      obtain ⟨part, rfl, hsurplus, hparts⟩ := items_more hvalue hcomma hfollowing hfirst
      refine ⟨part :: parts, last, ?_, .cons hshows (fun _ => ?_) hmoreShow, hlast⟩
      · rw [hparts, hmore]
        rfl
      · cases hmoreShow with
        | cons => simp [hsurplus]
termination_by (fuel, 0)

theorem members_spelled (fuel depth : Nat) {cursor : Cursor} {text rest : List Char}
    {member : Option String × Source} {members : List (Option String × Source)}
    (htext : SpellsMembers text (member :: members)) (hfuel : 3 * text.length < fuel)
    (hrest : cursor.rest = text ++ '\x7d' :: rest) :
    ∃ entries after, Reader.members fuel depth cursor.skipBlanks =
        ⟨entries, .closed (some after.location), some after⟩ ∧
      MembersShow .text (roomAt depth) (member :: members) entries ∧ after.rest = rest := by
  obtain ⟨fuel, rfl⟩ : ∃ less, fuel = less + 1 := ⟨fuel - 1, by omega⟩
  cases htext with
  | last hkey hvalue =>
      simp only [List.length_append, List.length_cons] at hfuel
      rw [List.append_assoc, List.cons_append] at hrest
      obtain ⟨key, afterKey, hkeyRead, hkeyShows, hcolon⟩ :=
        key_spelled (fuel + 1) (roomAt depth) hkey (by omega) hrest
      obtain ⟨document, after, hvalueRead, hshows, hclosed⟩ :=
        value_padded fuel depth hvalue (by omega)
          (by rw [rest_skipBlanks, rest_next hcolon]) (.cons rfl) (by simp [isBlank])
      obtain ⟨entry, rfl, rfl, hentries⟩ := members_last hkeyRead hcolon hvalueRead hclosed
      exact ⟨[entry], _, hentries, .cons hkeyShows hshows .nil, rest_next hclosed⟩
  | @more _ _ others _ _ next members hkey hvalue hmembers =>
      simp only [List.length_append, List.length_cons] at hfuel
      rw [List.append_assoc, List.cons_append, List.append_assoc, List.cons_append] at hrest
      obtain ⟨key, afterKey, hkeyRead, hkeyShows, hcolon⟩ :=
        key_spelled (fuel + 1) (roomAt depth) hkey (by omega) hrest
      obtain ⟨document, after, hvalueRead, hshows, hcomma⟩ :=
        value_padded fuel depth hvalue (by omega)
          (by rw [rest_skipBlanks, rest_next hcolon]) (.cons rfl) (by simp [isBlank])
      have hothers : after.skipBlanks.next.rest = others ++ '\x7d' :: rest := rest_next hcomma
      obtain ⟨entries, last, hmore, hmoreShow, hlast⟩ :=
        members_spelled fuel depth hmembers (by omega) hothers
      obtain ⟨blanks, tail, rfl, hblanks⟩ := hmembers.exists_append
      have hfollowing : after.skipBlanks.next.skipBlanks.rest = '"' :: (tail ++ '\x7d' :: rest) :=
        rest_skipBlanks_append (by rw [hothers]; simp) hblanks (by simp [isBlank])
      obtain ⟨entry, rfl, rfl, hentries⟩ :=
        members_more hkeyRead hcolon hvalueRead hcomma hfollowing
      refine ⟨entry :: entries, last, ?_, .cons hkeyShows hshows hmoreShow, hlast⟩
      rw [hentries, hmore]
      rfl
termination_by (fuel, 0)
end

/-- A JSON text is read as a document that shows what it spells, and nothing is left over. -/
theorem read_spelled {text : List Char} {source : Source} (htext : SpellsPadded text source) :
    ∃ document, read text = (document, none) ∧ Shows .text (roomAt 0) source document := by
  obtain ⟨document, after, hread, hshows, hafter⟩ :=
    @value_padded (4 * text.length + 4) 0 { rest := text } text [] source htext (by omega)
      (by rw [rest_skipBlanks, List.append_nil]) (by simp [EndsNumber]) (by simp)
  refine ⟨document, ?_, hshows⟩
  rw [read, hread]
  simp [hafter]

end Reader

end ProviderForge.Json
