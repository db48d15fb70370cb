import NotificationFeed.Event.Envelope
import NotificationFeed.Proofs.Json.Inside
/-!
# Records — two fields among other members

A record is written as an object that has both fields once, in any order and
with any other members around them, every name spelled in any way
(`IsRecord`). Its fields are found whatever the order
(`fields?_of_isRecord`). In turn, the fields that are found stand inside the
document that was read (`holds_of_fields?`).
-/

namespace NotificationFeed

namespace Event

open Json

variable {first second name : String} {a b n : Node} {d : Document}

/-- A name as it may be written between quotes. -/
def Names (key : Bytes) (name : String) : Prop := Writes key name.toList

/-- **An object with two fields**: each of them once, and any other members,
in any order. -/
def IsRecord (ms : Members) (first : String) (a : Node) (second : String) (b : Node) : Prop :=
  ∃ k₁ k₂ others, ms.entries.Perm ((k₁, a) :: (k₂, b) :: others) ∧
    Names k₁ first ∧ Names k₂ second ∧
    ∀ entry ∈ others, ∃ name, Names entry.1 name ∧ name ≠ first ∧ name ≠ second

theorem stringText_of_names {key : Bytes} (h : Names key name) : stringText key = some name := by
  rw [stringText_of_writes h, String.ofList_toList]

/-! ## Names -/

/-- The name of an entry, if its key is a text. -/
def named (entry : Bytes × Node) : String × Node := ((stringText entry.1).getD "", entry.2)

theorem named_of_names {key : Bytes} (h : Names key name) : named (key, n) = (name, n) := by
  rw [named, stringText_of_names h]
  rfl

/-- Where every key is a text, every entry gets its name. -/
theorem namedEntries_eq_map {entries : List (Bytes × Node)}
    (h : ∀ entry ∈ entries, (stringText entry.1).isSome = true) :
    namedEntries entries = some (entries.map named) := by
  induction entries with
  | nil => rfl
  | cons entry entries ih =>
    obtain ⟨key, n⟩ := entry
    obtain ⟨name, hname⟩ := Option.isSome_iff_exists.1 (h (key, n) (List.mem_cons_self ..))
    have hrest := ih fun x hx => h x (List.mem_cons_of_mem _ hx)
    simp only [namedEntries] at hrest ⊢
    simp [List.mapM_cons, hname, hrest, named]

/-- What has a name stood under a key. -/
theorem mem_of_namedEntries {entries : List (Bytes × Node)} {names : List (String × Node)}
    (h : namedEntries entries = some names) (hmem : (name, n) ∈ names) :
    ∃ key, (key, n) ∈ entries := by
  induction entries generalizing names with
  | nil =>
    cases h
    cases hmem
  | cons entry entries ih =>
    obtain ⟨key, m⟩ := entry
    simp only [namedEntries, List.mapM_cons, Option.bind_eq_bind, Option.bind_eq_some_iff,
      Option.map_eq_some_iff] at h
    obtain ⟨x, ⟨_, -, rfl⟩, rest, hrest, h⟩ := h
    cases h
    rcases List.mem_cons.1 hmem with heq | hmem
    · cases heq
      exact ⟨key, List.mem_cons_self ..⟩
    · obtain ⟨key', hkey'⟩ := ih hrest hmem
      exact ⟨key', List.mem_cons_of_mem _ hkey'⟩

/-! ## The one entry of a name -/

theorem single?_of_filter {names : List (String × Node)}
    (h : names.filter (·.1 == name) = [(name, n)]) : single? name names = some n := by
  rw [single?, h]

theorem mem_of_single? {names : List (String × Node)} (h : single? name names = some n) :
    (name, n) ∈ names := by
  unfold single? at h
  split at h
  · rename_i found m hfilter
    cases h
    have hmem : (found, n) ∈ names.filter (·.1 == name) := by
      rw [hfilter]
      exact List.mem_singleton.2 rfl
    obtain ⟨hmem, hname⟩ := List.mem_filter.1 hmem
    rw [← beq_iff_eq.1 hname]
    exact hmem
  · cases h

/-! ## The fields of a record -/

/-- **The fields of a record are found**, whatever stands around them. -/
theorem fields?_of_isRecord {ms : Members} (hne : first ≠ second)
    (h : IsRecord ms first a second b) (gap : Bytes) :
    fields? first second (.object gap ms) = some (a, b) := by
  obtain ⟨k₁, k₂, others, hperm, h₁, h₂, hothers⟩ := h
  have hkeys : ∀ entry ∈ ms.entries, (stringText entry.1).isSome = true := by
    intro entry hentry
    rcases List.mem_cons.1 (hperm.mem_iff.1 hentry) with rfl | hentry
    · rw [stringText_of_names h₁]
      rfl
    · rcases List.mem_cons.1 hentry with rfl | hentry
      · rw [stringText_of_names h₂]
        rfl
      · obtain ⟨name, hname, -⟩ := hothers entry hentry
        rw [stringText_of_names hname]
        rfl
  -- Under their names the entries are the two fields and others of other names.
  have hnamed : (ms.entries.map named).Perm
      ((first, a) :: (second, b) :: others.map named) := by
    have := hperm.map named
    rwa [List.map_cons, List.map_cons, named_of_names h₁, named_of_names h₂] at this
  have hother : ∀ name, (name = first ∨ name = second) →
      (others.map named).filter (·.1 == name) = [] := by
    intro name hname
    refine List.filter_eq_nil_iff.2 fun entry hentry => ?_
    obtain ⟨⟨key, n⟩, hmem, rfl⟩ := List.mem_map.1 hentry
    obtain ⟨name', hname', hfirst, hsecond⟩ := hothers (key, n) hmem
    rw [named_of_names hname', beq_iff_eq]
    rintro rfl
    exact hname.elim hfirst hsecond
  have hfound₁ : (ms.entries.map named).filter (·.1 == first) = [(first, a)] := by
    refine List.perm_singleton.1 ((hnamed.filter _).trans ?_)
    simp [hother first (.inl rfl), hne.symm]
  have hfound₂ : (ms.entries.map named).filter (·.1 == second) = [(second, b)] := by
    refine List.perm_singleton.1 ((hnamed.filter _).trans ?_)
    simp [hother second (.inr rfl), hne]
  simp only [fields?, namedEntries_eq_map hkeys, Option.bind_eq_bind, Option.bind_some,
    single?_of_filter hfound₁, single?_of_filter hfound₂]
  rfl

/-- **What is found as the second field stands inside the document**, and the
document is an array or an object. -/
theorem holds_of_fields? (h : fields? first second d.root = some (a, b)) :
    d.Holds b ∧ ((∃ gap es, d.root = .array gap es) ∨ ∃ gap ms, d.root = .object gap ms) := by
  unfold fields? at h
  split at h
  · rename_i gap es hroot
    split at h
    · rename_i x y hnodes
      cases h
      refine ⟨Document.holds_element hroot ?_, .inl ⟨gap, es, hroot⟩⟩
      rw [hnodes]
      exact List.mem_cons_of_mem _ (List.mem_singleton.2 rfl)
    · cases h
  · rename_i gap ms hroot
    simp only [Option.bind_eq_bind, Option.bind_eq_some_iff] at h
    obtain ⟨names, hnames, x, -, y, hy, h⟩ := h
    cases h
    obtain ⟨key, hkey⟩ := mem_of_namedEntries hnames (mem_of_single? hy)
    exact ⟨Document.holds_member hroot hkey, .inr ⟨gap, ms, hroot⟩⟩
  · cases h

end Event

end NotificationFeed
