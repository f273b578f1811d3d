import ProviderForge.Proofs.Code.Binding

/-!
Which options of a listed read can be told from the file. The limit of a page, the number of
attempts and the delay between them stand in the read as they are declared. So do the cursor and the
flag for more pages; but the hooks around them are code of the definitions, which can spell such a
step, too. The item type stands nowhere.
-/

namespace ProviderForge

open Code Result

theorem Code.number_inj {value other : Nat} (hnumber : number value = number other) :
    value = other := by
  have hdigits : Nat.toDigits 10 value = Nat.toDigits 10 other :=
    String.ofList_inj.mp (Token.literal.inj (List.head_eq_of_cons_eq hnumber))
  rw [← @Nat.ofDigitChars_ten_toDigits value, hdigits, Nat.ofDigitChars_ten_toDigits]

namespace Resource

open ClientCall

def withListRead (declared : Resource) (options : ListRead) : Resource :=
  { declared with api := { declared.api with listRead := some options } }

def itemType (declared : Resource) (options : ListRead) : String :=
  options.itemModel.getD declared.recordName

theorem listedRead_inj {options others : ListRead} {parts remade : ListParts}
    (hcode : listedRead options parts = listedRead others remade) :
    options.retryAttempts = others.retryAttempts ∧
      options.retryDelaySeconds = others.retryDelaySeconds ∧
      scan parts options.pageLimit.toNat = scan remade others.pageLimit.toNat := by
  have harguments := congrArg (inside .parenthesis) hcode
  have hattempts : number options.retryAttempts.toNat = number others.retryAttempts.toNat :=
    congrArg (List.take 1) harguments
  have hdelay : number options.retryDelaySeconds.toNat = number others.retryDelaySeconds.toNat :=
    congrArg (inside .parenthesis) harguments
  exact ⟨UInt32.toNat_inj.mp (number_inj hattempts), UInt64.toNat_inj.mp (number_inj hdelay),
    congrArg (inside .brace) harguments⟩

def step (parts : ListParts) : Code :=
  parts.preIterate ++ (checked parts.call "read" .propagate ++ returnMatch ++
    advance parts.hasMore parts.cursor) ++ parts.postIterate

theorem scan_inj {parts remade : ListParts} {limit other : Nat}
    (hcode : scan parts limit = scan remade other) : limit = other ∧ step parts = step remade := by
  have hlimit : number limit = number other :=
    congrArg (inside .parenthesis) (congrArg (inside .brace) hcode)
  -- the first hook is of any length, so the loop is counted from the end
  have hloop : loop (step parts) = loop (step remade) := by
    simp only [step, ← List.append_assoc]
    exact (List.append_inj' (List.append_inj' hcode rfl).1 rfl).2
  exact ⟨number_inj hlimit, congrArg (inside .brace) hloop⟩

theorem advance_inj {hasMore cursor otherFlag otherCursor : Identifier}
    (hcode : advance hasMore cursor = advance otherFlag otherCursor) :
    hasMore = otherFlag ∧ cursor = otherCursor := by
  -- a point each before the flag, the method called on it and the cursor
  have hflags : ident hasMore = ident otherFlag :=
    congrArg (fun code => (after (Token.isMark '.') code).take 1) hcode
  have hcursors : ident cursor = ident otherCursor :=
    congrArg (fun code => (after (Token.isMark '.')
      (after (Token.isMark '.') (after (Token.isMark '.') code))).take 1) hcode
  have hident : ∀ identifier other : Identifier, ident identifier = ident other →
      identifier = other := fun _ _ hcodes =>
    congrArg Identifier.mk (Token.ident.inj (List.head_eq_of_cons_eq hcodes))
  exact ⟨hident _ _ hflags, hident _ _ hcursors⟩

/-- Steps with the same code before them, or behind them, stand at the same place. -/
theorem step_inj {parts remade : ListParts} (hcall : parts.call = remade.call)
    (hstep : step parts = step remade)
    (hhooks : parts.preIterate = remade.preIterate ∨ parts.postIterate = remade.postIterate) :
    parts.hasMore = remade.hasMore ∧ parts.cursor = remade.cursor := by
  have hadvance : advance parts.hasMore parts.cursor = advance remade.hasMore remade.cursor := by
    simp only [step, hcall] at hstep
    rcases hhooks with hhook | hhook
    · rw [hhook] at hstep
      simp only [List.append_assoc, List.append_cancel_left_eq] at hstep
      exact (List.append_inj hstep rfl).1
    · rw [hhook, List.append_cancel_right_eq] at hstep
      simp only [← List.append_assoc] at hstep
      exact (List.append_inj' hstep rfl).2
  exact advance_inj hadvance

variable {declared : Resource}

theorem lookup_read_code {options : ListRead} {file : Code}
    (hlist : declared.api.listRead = some options) (hfile : declared.code.result = .ok file) :
    ∃ parts, listParts declared options = .ok parts ∧
      (traitFunctions "Resource" (Name.resourceType declared.name) file).lookup "read" =
        some (Lifecycle.load ⟨Name.resourceModel declared.name⟩ "state" ++
          listedRead options parts ++ Lifecycle.store) := by
  obtain ⟨-, create, read, update, delete, metadataBody, schemaBody, -, hcreate, hread, -, -, -, -,
    hfunctions, -, -⟩ := code_ok hfile
  simp only [createMethod, bind_eq_ok, pure_eq_ok] at hcreate
  obtain ⟨call, -, rfl⟩ := hcreate
  simp only [readMethod, hlist, bind_eq_ok, map_eq_ok, pure_eq_ok] at hread
  obtain ⟨_, ⟨parts, hparts, rfl⟩, rfl⟩ := hread
  refine ⟨parts, hparts, ?_⟩
  rw [hfunctions, sendMethod, Lifecycle.isFunction_asyncMethod, Lifecycle.isFunction_asyncMethod]
  rfl

/-- Equal steps ask for the same fields of the response, if one of their hooks is the same. -/
theorem fields_of_step {options others : ListRead} {parts remade : ListParts}
    (hparts : listParts (declared.withListRead options) options = .ok parts)
    (hremade : listParts (declared.withListRead others) others = .ok remade)
    (hstep : step parts = step remade)
    (hhooks : options.preIterate = others.preIterate ∨ options.postIterate = others.postIterate) :
    options.cursorField = others.cursorField ∧ options.hasMoreField = others.hasMoreField := by
  simp only [listParts, bind_eq_ok, pure_eq_ok] at hparts hremade
  obtain ⟨parameters, -, call, hcall, hasMore, hflag, cursor, hcursor, initLoop, -, pre, hpre,
    post, hpost, rfl⟩ := hparts
  obtain ⟨otherParameters, -, otherCall, hotherCall, otherFlag, hotherFlag, otherCursor,
    hotherCursor, otherInit, -, otherPre, hotherPre, otherPost, hotherPost, rfl⟩ := hremade
  have hcalls : call = otherCall := Except.ok.inj (hcall.symm.trans hotherCall)
  have hcodes : pre = otherPre ∨ post = otherPost := by
    rcases hhooks with hhook | hhook
    · rw [hhook, hotherPre] at hpre
      exact .inl (Except.ok.inj hpre).symm
    · rw [hhook, hotherPost] at hpost
      exact .inr (Except.ok.inj hpost).symm
  obtain ⟨rfl, rfl⟩ := step_inj hcalls hstep hcodes
  exact ⟨Identifier.field_inj hcursor hotherCursor, Identifier.field_inj hflag hotherFlag⟩

/-- What the file of a listed resource tells of the options of its read: the numbers always, the
fields of the response unless both hooks of the loop are other ones, the item type never. -/
theorem file_tells_listRead (declared : Resource) :
    (∀ options others file, (declared.withListRead options).code.result = .ok file →
      (declared.withListRead others).code.result = .ok file →
      options.pageLimit = others.pageLimit ∧ options.retryAttempts = others.retryAttempts ∧
      options.retryDelaySeconds = others.retryDelaySeconds ∧
      (options.preIterate = others.preIterate ∨ options.postIterate = others.postIterate →
        options.cursorField = others.cursorField ∧
        options.hasMoreField = others.hasMoreField)) ∧
    ∀ options item, (declared.withListRead { options with itemModel := item }).code =
      (declared.withListRead options).code := by
  refine ⟨fun options others file hfile hother => ?_, fun options item => rfl⟩
  obtain ⟨parts, hparts, hread⟩ := lookup_read_code rfl hfile
  obtain ⟨remade, hremade, hotherRead⟩ := lookup_read_code rfl hother
  have hbody := List.append_cancel_right (Option.some.inj (hread.symm.trans hotherRead))
  obtain ⟨hattempts, hdelay, hscan⟩ := listedRead_inj (List.append_cancel_left hbody)
  obtain ⟨hlimit, hstep⟩ := scan_inj hscan
  exact ⟨UInt32.toNat_inj.mp hlimit, hattempts, hdelay, fields_of_step hparts hremade hstep⟩

theorem clientKey_succeeds : Succeeds (BuiltIn.clientKey.withListRead {}).code.result := by
  decide +kernel

/-- Client keys that are listed in smaller pages are read by other code. -/
theorem clientKey_tells_pageLimit : ∃ file other,
    (BuiltIn.clientKey.withListRead {}).code.result = .ok file ∧
    (BuiltIn.clientKey.withListRead { pageLimit := 50 }).code.result = .ok other ∧
    file ≠ other := by
  have hother : Succeeds (BuiltIn.clientKey.withListRead { pageLimit := 50 }).code.result := by
    decide +kernel
  obtain ⟨file, hfile⟩ := clientKey_succeeds
  obtain ⟨other, hother⟩ := hother
  refine ⟨file, other, hfile, hother, ?_⟩
  rintro rfl
  have htold := (file_tells_listRead BuiltIn.clientKey).1 {} { pageLimit := 50 } file hfile hother
  exact absurd htold.1 (by decide)

/-- A type of their own for the listed items is accepted and has no effect. -/
theorem clientKey_ignores_itemType : ∃ options others : ListRead, ∃ file,
    BuiltIn.clientKey.itemType options ≠ BuiltIn.clientKey.itemType others ∧
    (BuiltIn.clientKey.withListRead options).code.result = .ok file ∧
    (BuiltIn.clientKey.withListRead others).code.result = .ok file := by
  obtain ⟨file, hfile⟩ := clientKey_succeeds
  exact ⟨{ itemModel := some "ListedKey" }, {}, file, by decide, hfile, hfile⟩

end Resource

end ProviderForge
