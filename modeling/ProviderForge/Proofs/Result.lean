import ProviderForge.Event

namespace ProviderForge.Result

variable {ε α β : Type}

instance decidableEqExcept [DecidableEq ε] [DecidableEq α] : DecidableEq (Except ε α)
  | .ok value, .ok other =>
      decidable_of_iff (value = other) ⟨congrArg Except.ok, fun heq => Except.ok.inj heq⟩
  | .error failure, .error other =>
      decidable_of_iff (failure = other) ⟨congrArg Except.error, fun heq => Except.error.inj heq⟩
  | .ok _, .error _ | .error _, .ok _ => isFalse (by simp)

@[simp] theorem bind_eq_ok {first : Except ε α} {next : α → Except ε β} {value : β} :
    (first >>= next) = .ok value ↔ ∃ middle, first = .ok middle ∧ next middle = .ok value := by
  cases first <;> simp [bind, Except.bind]

@[simp] theorem throw_eq_ok {failure : ε} {value : α} :
    (throw failure : Except ε α) = .ok value ↔ False := by
  simp [throw, throwThe, MonadExceptOf.throw]

@[simp] theorem pure_eq_ok {value other : α} :
    (pure value : Except ε α) = .ok other ↔ value = other := by
  simp [pure, Except.pure]

@[simp] theorem map_eq_ok {change : α → β} {result : Except ε α} {value : β} :
    (change <$> result) = .ok value ↔ ∃ middle, result = .ok middle ∧ change middle = value := by
  cases result <;> simp [Functor.map, Except.map]

theorem isOk_iff {result : Except ε α} : result.isOk = true ↔ ∃ value, result = .ok value := by
  cases result with
  | error => exact iff_of_false nofun nofun
  | ok value => exact iff_of_true rfl ⟨value, rfl⟩

theorem exists_unit {holds : Unit → Prop} : (∃ value, holds value) ↔ holds () :=
  ⟨fun ⟨_, hholds⟩ => hholds, fun hholds => ⟨(), hholds⟩⟩

@[simp] theorem bind_eq_error {first : Except ε α} {next : α → Except ε β} {failure : ε} :
    (first >>= next) = .error failure ↔
      first = .error failure ∨ ∃ middle, first = .ok middle ∧ next middle = .error failure := by
  cases first <;> simp [bind, Except.bind]

@[simp] theorem throw_eq_error {failure other : ε} :
    (throw failure : Except ε α) = .error other ↔ failure = other := by
  simp [throw, throwThe, MonadExceptOf.throw]

@[simp] theorem pure_eq_error {value : α} {failure : ε} :
    (pure value : Except ε α) = .error failure ↔ False := by
  simp [pure, Except.pure]

@[simp] theorem map_eq_error {change : α → β} {result : Except ε α} {failure : ε} :
    (change <$> result) = .error failure ↔ result = .error failure := by
  cases result <;> simp [Functor.map, Except.map]

@[simp] theorem ok_bind (value : α) (next : α → Except ε β) :
    ((.ok value : Except ε α) >>= next) = next value := rfl

@[simp] theorem error_bind (failure : ε) (next : α → Except ε β) :
    ((.error failure : Except ε α) >>= next) = .error failure := rfl

/-- Both computations fail with one failure, or both succeed with related values. -/
inductive Alike (related : α → α → Prop) : Except ε α → Except ε α → Prop
  | error (failure : ε) : Alike related (.error failure) (.error failure)
  | ok {value other : α} (hvalues : related value other) : Alike related (.ok value) (.ok other)

theorem alike_of_map_eq {view : α → β} {related : α → α → Prop} {first other : Except ε α}
    (hmap : view <$> first = view <$> other)
    (hview : ∀ left right, view left = view right → related left right) :
    Alike related first other := by
  cases first with
  | error failure =>
      cases other with
      | error _ => rw [Except.error.inj hmap]; exact .error _
      | ok _ => cases hmap
  | ok left =>
      cases other with
      | error _ => cases hmap
      | ok right => exact .ok (hview left right (Except.ok.inj hmap))

/-- Two computations that cannot be told apart step by step cannot be told apart as a whole. -/
theorem map_bind_congr {γ δ : Type} {inner : α → γ} {view : β → δ} {first other : Except ε α}
    {next following : α → Except ε β} (hfirst : inner <$> first = inner <$> other)
    (hnext : ∀ left right, inner left = inner right →
      view <$> next left = view <$> following right) :
    view <$> (first >>= next) = view <$> (other >>= following) := by
  cases first with
  | error failure =>
      cases other with
      | error _ => rw [Except.error.inj hfirst, error_bind, error_bind]
      | ok _ => cases hfirst
  | ok left =>
      cases other with
      | error _ => cases hfirst
      | ok right => exact hnext left right (Except.ok.inj hfirst)

theorem map_bind_congr_right {γ : Type} {view : β → γ} {first : Except ε α}
    {next following : α → Except ε β}
    (hnext : ∀ value, view <$> next value = view <$> following value) :
    view <$> (first >>= next) = view <$> (first >>= following) := by
  cases first with
  | error failure => rfl
  | ok value => exact hnext value

theorem forM_eq_ok {entries : List α} {action : α → Except ε Unit} :
    entries.forM action = .ok () ↔ ∀ entry ∈ entries, action entry = .ok () := by
  induction entries with
  | nil =>
      change (pure () : Except ε Unit) = .ok () ↔ _
      simp
  | cons first rest ih =>
      change (action first >>= fun _ => rest.forM action) = .ok () ↔ _
      rw [bind_eq_ok, exists_unit, ih]
      simp

theorem forM_eq_error {entries : List α} {action : α → Except ε Unit} {failure : ε} :
    entries.forM action = .error failure ↔
      ∃ before entry after, entries = before ++ entry :: after ∧
        (∀ other ∈ before, action other = .ok ()) ∧ action entry = .error failure := by
  induction entries with
  | nil =>
      change (pure () : Except ε Unit) = .error failure ↔ _
      simp
  | cons first rest ih =>
      change (action first >>= fun _ => rest.forM action) = .error failure ↔ _
      rw [bind_eq_error, exists_unit, ih]
      constructor
      · rintro (hfirst | ⟨hfirst, before, entry, after, rfl, hbefore, hentry⟩)
        · exact ⟨[], first, rest, rfl, by simp, hfirst⟩
        · exact ⟨first :: before, entry, after, rfl, List.forall_mem_cons.mpr ⟨hfirst, hbefore⟩,
            hentry⟩
      · rintro ⟨before, entry, after, hsplit, hbefore, hentry⟩
        cases before with
        | nil =>
            obtain ⟨rfl, rfl⟩ := List.cons.inj hsplit
            exact .inl hentry
        | cons other before =>
            obtain ⟨rfl, rfl⟩ := List.cons.inj hsplit
            obtain ⟨hother, hbefore⟩ := List.forall_mem_cons.mp hbefore
            exact .inr ⟨hother, before, entry, after, rfl, hbefore, hentry⟩

/-- A check of each entry stops where the computation that it stands for stops. -/
theorem forM_eq_map_mapM {entries : List α} {check : α → Except ε Unit} {action : α → Except ε β}
    (hall : ∀ entry ∈ entries, check entry = (fun _ => ()) <$> action entry) :
    entries.forM check = (fun _ => ()) <$> entries.mapM action := by
  induction entries with
  | nil => rfl
  | cons first rest ih =>
      obtain ⟨hfirst, hrest⟩ := List.forall_mem_cons.mp hall
      change (check first >>= fun _ => rest.forM check) = _
      rw [hfirst, ih hrest, List.mapM_cons]
      cases action first with
      | error failure => rfl
      | ok value => cases rest.mapM action <;> rfl

theorem exists_of_mapM_ok {entries : List α} {action : α → Except ε β} {values : List β}
    (hall : entries.mapM action = .ok values) :
    ∀ value ∈ values, ∃ entry ∈ entries, action entry = .ok value := by
  induction entries generalizing values with
  | nil =>
      simp only [List.mapM_nil, pure_eq_ok] at hall
      simp [← hall]
  | cons first rest ih =>
      simp only [List.mapM_cons, bind_eq_ok, pure_eq_ok] at hall
      obtain ⟨value, hvalue, others, hothers, rfl⟩ := hall
      intro other hmem
      rcases List.mem_cons.mp hmem with rfl | hmem
      · exact ⟨first, List.mem_cons_self, hvalue⟩
      · obtain ⟨entry, hentry, hok⟩ := ih hothers other hmem
        exact ⟨entry, List.mem_cons_of_mem _ hentry, hok⟩

theorem exists_mem_of_mapM_ok {entries : List α} {action : α → Except ε β} {values : List β}
    (hall : entries.mapM action = .ok values) :
    ∀ entry ∈ entries, ∃ value ∈ values, action entry = .ok value := by
  induction entries generalizing values with
  | nil => simp
  | cons first rest ih =>
      simp only [List.mapM_cons, bind_eq_ok, pure_eq_ok] at hall
      obtain ⟨value, hvalue, others, hothers, rfl⟩ := hall
      refine List.forall_mem_cons.mpr ⟨⟨value, List.mem_cons_self, hvalue⟩, fun entry hentry => ?_⟩
      obtain ⟨other, hmem, hother⟩ := ih hothers entry hentry
      exact ⟨other, List.mem_cons_of_mem _ hmem, hother⟩

theorem ok_of_mapM_ok {entries : List α} {action : α → Except ε β} {values : List β}
    (hall : entries.mapM action = .ok values) :
    ∀ entry ∈ entries, ∃ value, action entry = .ok value := by
  intro entry hmem
  obtain ⟨value, -, hvalue⟩ := exists_mem_of_mapM_ok hall entry hmem
  exact ⟨value, hvalue⟩

/-- Two computations of the same entries, where what the first makes tells what the second makes. -/
theorem exists_mapM_of_mapM_ok {γ δ : Type} {entries : List α} {action : α → Except ε β}
    {other : α → Except ε γ} {values : List β} {read : β → δ} {expected : γ → δ}
    (hall : entries.mapM action = .ok values)
    (hread : ∀ entry value, action entry = .ok value →
      ∃ made, other entry = .ok made ∧ read value = expected made) :
    ∃ results, entries.mapM other = .ok results ∧ values.map read = results.map expected := by
  induction entries generalizing values with
  | nil =>
      simp only [List.mapM_nil, pure_eq_ok] at hall
      exact ⟨[], rfl, by simp [← hall]⟩
  | cons first rest ih =>
      simp only [List.mapM_cons, bind_eq_ok, pure_eq_ok] at hall
      obtain ⟨value, hvalue, others, hothers, rfl⟩ := hall
      obtain ⟨made, hmade, hfirst⟩ := hread first value hvalue
      obtain ⟨results, hresults, hrest⟩ := ih hothers
      exact ⟨made :: results, by simp [hmade, hresults, pure, Except.pure], by simp [hfirst, hrest]⟩

theorem map_of_mapM_ok {γ : Type} {entries : List α} {action : α → Except ε β} {values : List β}
    {read : β → γ} {expected : α → γ} (hall : entries.mapM action = .ok values)
    (hread : ∀ entry value, action entry = .ok value → read value = expected entry) :
    values.map read = entries.map expected := by
  induction entries generalizing values with
  | nil =>
      simp only [List.mapM_nil, pure_eq_ok] at hall
      simp [← hall]
  | cons first rest ih =>
      simp only [List.mapM_cons, bind_eq_ok, pure_eq_ok] at hall
      obtain ⟨value, hvalue, others, hothers, rfl⟩ := hall
      simp [hread first value hvalue, ih hothers]

/-- What becomes of entries with different keys is different, if it tells the keys. -/
theorem nodup_of_mapM_ok {κ : Type} {entries : List α} {action : α → Except ε β} {values : List β}
    {key : α → κ} (hall : entries.mapM action = .ok values)
    (hkey : ∀ entry other value, action entry = .ok value → action other = .ok value →
      key entry = key other)
    (hnodup : (entries.map key).Nodup) : values.Nodup := by
  induction entries generalizing values with
  | nil =>
      simp only [List.mapM_nil, pure_eq_ok] at hall
      exact hall ▸ .nil
  | cons entry rest ih =>
      simp only [List.mapM_cons, bind_eq_ok, pure_eq_ok] at hall
      obtain ⟨value, hvalue, others, hothers, rfl⟩ := hall
      obtain ⟨hfresh, hrest⟩ := List.nodup_cons.mp hnodup
      refine List.nodup_cons.mpr ⟨fun hmem => ?_, ih hothers hrest⟩
      obtain ⟨other, hother, hsame⟩ := exists_of_mapM_ok hothers value hmem
      exact hfresh (hkey entry other value hvalue hsame ▸ List.mem_map_of_mem hother)

theorem exists_mapM_ok {entries : List α} {action : α → Except ε β} :
    (∃ values, entries.mapM action = .ok values) ↔
      ∀ entry ∈ entries, ∃ value, action entry = .ok value := by
  refine ⟨fun ⟨_, hall⟩ => ok_of_mapM_ok hall, fun hentries => ?_⟩
  induction entries with
  | nil => exact ⟨[], rfl⟩
  | cons first rest ih =>
      obtain ⟨⟨value, hvalue⟩, hrest⟩ := List.forall_mem_cons.mp hentries
      obtain ⟨values, hvalues⟩ := ih hrest
      exact ⟨value :: values, by simp [hvalue, hvalues]⟩

theorem exists_of_mapM_error {entries : List α} {action : α → Except ε β} {failure : ε}
    (hfailed : entries.mapM action = .error failure) :
    ∃ entry ∈ entries, action entry = .error failure := by
  induction entries with
  | nil => simp at hfailed
  | cons first rest ih =>
      simp only [List.mapM_cons, bind_eq_error, pure_eq_error, and_false, exists_false,
        or_false] at hfailed
      rcases hfailed with hfirst | ⟨_, -, hrest⟩
      · exact ⟨first, List.mem_cons_self, hfirst⟩
      · obtain ⟨entry, hentry, hfailed⟩ := ih hrest
        exact ⟨entry, List.mem_cons_of_mem _ hentry, hfailed⟩

end ProviderForge.Result
