import QuadGraph.Proofs.Selections

/-!
# Reading what matching binds

Matching binds a variable under its own name, and looks it up under the bare one. The two are the same
unless the name begins with a question mark (`Proper`). Then all who read bindings find the same
(`Bindings.get?_of_mem_toList`, `Bindings.substitute_var`), whatever other names are bound, and only then
(`Bindings.proper_of_reads`); and matching keeps what was bound, makes each occurrence of the variable
meet a term like what is bound in the end, and tests its constraint (`Graph.unifyStatement_reads`).
-/

namespace QuadGraph

def Proper (name : String) : Prop := name.toList.head? ≠ some '?'

instance (name : String) : Decidable (Proper name) := inferInstanceAs (Decidable (_ ≠ _))

theorem Proper.bareName_eq {name : String} (h : Proper name) : bareName name = name :=
  Pattern.bareName_eq h

theorem proper_of_bareName_eq {name : String} (h : bareName name = name) : Proper name := by
  intro hmark
  unfold bareName at h
  split at h
  case h_1 rest hname =>
    have hrest : rest = '?' :: rest := by
      rw [← hname, ← h, String.toList_ofList]
    exact absurd (congrArg List.length hrest) (by simp)
  case h_2 hne =>
    obtain ⟨rest, hname⟩ := List.head?_eq_some_iff.mp hmark
    exact hne rest hname

/-! ## Those who read -/

namespace Bindings

variable {b : Bindings} {name : String} {t : Term}

theorem mem_toList : (name, t) ∈ b.toList ↔ b.values[name]? = some t :=
  Std.ExtTreeMap.mem_toList_iff_getElem?_eq_some

theorem get?_of_mem_toList (hname : Proper name) (h : (name, t) ∈ b.toList) :
    b.get? name = some t :=
  (get?_eq hname.bareName_eq b).trans (mem_toList.mp h)

/-- No other name finds all that is bound under it. -/
theorem proper_of_reads (h : ∀ (b : Bindings) (t : Term), (name, t) ∈ b.toList →
    b.get? name = some t) : Proper name := by
  have hget := h (empty.bind name default) default (mem_toList.mpr (by rw [getElem?_bind, if_pos rfl]))
  rw [get?, getElem?_bind] at hget
  split at hget
  case isTrue hbare => exact proper_of_bareName_eq hbare.symm
  case isFalse => cases hget

theorem contains_eq_isSome (b : Bindings) (name : String) :
    b.contains name = (b.get? name).isSome := by
  rw [contains, get?, Std.ExtTreeMap.isSome_getElem?_eq_contains]

theorem substitute_var (hname : Proper name) (b : Bindings) :
    b.substitute (.var name) = (b.get? name).getD (.var name) := by
  rw [substitute, get?_eq hname.bareName_eq]

def Keeps (b b' : Bindings) : Prop := ∀ (name : String) (t : Term), Proper name →
  b.values[name]? = some t → b'.values[name]? = some t

theorem Keeps.refl (b : Bindings) : b.Keeps b := fun _ _ _ h => h

theorem Keeps.trans {b b' b'' : Bindings} (h : b.Keeps b') (h' : b'.Keeps b'') : b.Keeps b'' :=
  fun name t hname ht => h' name t hname (h name t hname ht)

theorem Keeps.merge {b b' : Bindings} (h : b.Keeps b') (a : Bindings) : b.Keeps (a.merge b') := by
  intro name t hname ht
  rw [getElem?_merge, h name t hname ht, Option.some_or]

end Bindings

namespace Graph

/-! ## Graphs in which more is alike -/

def AlikeIn (g g' : Graph) : Prop := ∀ t u : Term, g.alike t u = true → g'.alike t u = true

mutual

theorem Fits.alikeIn {g g' : Graph} (hin : g.AlikeIn g') {meets meets' : String → Term → Prop}
    (hmeets : ∀ name u, meets name u → meets' name u) :
    ∀ {t u : Term}, g.Fits meets t u → g'.Fits meets' t u
  | .var name, u, hfits => hmeets name u hfits
  | .collection items, u, hfits => by
    rw [Fits] at hfits ⊢
    split
    case isTrue hopen =>
      rw [if_pos hopen] at hfits
      obtain ⟨others, hu, hall⟩ := hfits
      exact ⟨others, hu, FitsAll.alikeIn hin hmeets hall⟩
    case isFalse hopen =>
      rw [if_neg hopen] at hfits
      exact hin _ _ hfits
  | .named _, _, hfits => hin _ _ hfits
  | .blank _, _, hfits => hin _ _ hfits
  | .literal _, _, hfits => hin _ _ hfits
  | .formula _, _, hfits => hin _ _ hfits

theorem FitsAll.alikeIn {g g' : Graph} (hin : g.AlikeIn g') {meets meets' : String → Term → Prop}
    (hmeets : ∀ name u, meets name u → meets' name u) :
    ∀ {ts us : List Term}, g.FitsAll meets ts us → g'.FitsAll meets' ts us
  | [], [], _ => trivial
  | [], _ :: _, hfits => hfits.elim
  | _ :: _, [], hfits => hfits.elim
  | _ :: _, _ :: _, hfits => ⟨hfits.1.alikeIn hin hmeets, FitsAll.alikeIn hin hmeets hfits.2⟩

end

theorem FitsStatement.alikeIn {g g' : Graph} (hin : g.AlikeIn g')
    {meets meets' : String → Term → Prop} (hmeets : ∀ name u, meets name u → meets' name u)
    {st found : Statement} (h : g.FitsStatement meets st found) :
    g'.FitsStatement meets' st found :=
  ⟨h.1.alikeIn hin hmeets, h.2.1.alikeIn hin hmeets, h.2.2.alikeIn hin hmeets⟩

/-! ## What matching keeps of one name -/

def Reads (g : Graph) (b : Bindings) (name : String) (u : Term) : Prop :=
  Proper name → g.Stands b name u

structure Follows (x y : Extension) : Prop where
  keeps : x.1.Keeps y.1
  bound : ∀ name : String, name ∈ y.1.values → name ∈ x.1.values ∨ name ∈ y.2
  noted : ∀ name ∈ x.2, name ∈ y.2

section
variable {g g' : Graph} {x y z : Extension} {b b' : Bindings}

theorem Follows.refl (x : Extension) : Follows x x :=
  ⟨.refl x.1, fun _ h => .inl h, fun _ h => h⟩

theorem Follows.trans (h : Follows x y) (h' : Follows y z) : Follows x z where
  keeps := h.keeps.trans h'.keeps
  bound := fun name hz => by
    rcases h'.bound name hz with hy | hnoted
    · exact (h.bound name hy).imp_right (h'.noted name)
    · exact .inr hnoted
  noted := fun name hx => h'.noted name (h.noted name hx)

/-- A name is bound anew only if it was not bound, or is not proper. -/
theorem follows_bind {bound : List String} {name : String} (t : Term)
    (h : Proper name → b.values[name]? = none) :
    Follows (b, bound) (b.bind name t, bound ++ [name]) where
  keeps := by
    intro n v hn hv
    rw [Bindings.getElem?_bind, if_neg]
    · exact hv
    · rintro rfl
      rw [h hn] at hv
      cases hv
  bound := by
    intro n hn
    rcases Bindings.mem_bind.mp hn with hn | rfl
    · exact .inl hn
    · exact .inr (by simp)
  noted := fun n hn => List.mem_append_left _ hn

theorem Reads.mono {name : String} {u : Term} (hkeeps : b.Keeps b') (hin : g.AlikeIn g')
    (h : g.Reads b name u) : g'.Reads b' name u := by
  intro hname
  obtain ⟨t, ht, halike⟩ := h hname
  exact ⟨t, hkeeps name t hname ht, hin t u halike⟩

theorem Reads.follows {name : String} {u : Term} (hxy : Follows x y) (h : g.Reads x.1 name u) :
    g.Reads y.1 name u :=
  h.mono hxy.keeps fun _ _ h => h

theorem follows_of_alike {t u : Term}
    (h : (if g.alike t u = true then some x else none) = some y) :
    Follows x y ∧ g.alike t u = true := by
  obtain ⟨halike, h⟩ := Option.ite_none_right_eq_some.mp h
  obtain rfl := Option.some.inj h
  exact ⟨.refl x, halike⟩

theorem unifyVar_reads (hwf : g.WellFormed) {name : String} {u : Term}
    (h : g.unifyTerm (.var name) u x = some y) : Follows x y ∧ g.Reads y.1 name u := by
  obtain ⟨b, bound⟩ := x
  rw [unifyTerm] at h
  cases hget : b.get? name with
  | none =>
    rw [hget] at h
    obtain rfl := Option.some.inj h
    refine ⟨follows_bind _ fun hname => ?_, fun _ => ⟨g.canon u, ?_, ?_⟩⟩
    · rw [← Bindings.get?_eq hname.bareName_eq, hget]
    · rw [Bindings.getElem?_bind, if_pos rfl]
    · rw [alike, canonKey_canon hwf, beq_self_eq_true]
  | some t =>
    rw [hget] at h
    obtain ⟨hfollows, halike⟩ := follows_of_alike h
    refine ⟨hfollows, fun hname => ⟨t, hfollows.keeps name t hname ?_, halike⟩⟩
    rw [← Bindings.get?_eq hname.bareName_eq, hget]

end

mutual

theorem unifyTerm_reads {g : Graph} (hwf : g.WellFormed) : ∀ {t u : Term} {x y : Extension},
    g.unifyTerm t u x = some y → Follows x y ∧ g.Fits (g.Reads y.1) t u
  | .var name, u, x, y, h => unifyVar_reads hwf h
  | .collection items, u, x, y, h => by
    rw [Fits]
    by_cases hopen : Term.anyVariable items = true
    · rw [if_pos hopen]
      obtain ⟨others, rfl, hitems⟩ := (unifyTerm_open hopen).mp h
      obtain ⟨hfollows, hfits⟩ := unifyItems_reads hwf hitems
      exact ⟨hfollows, others, rfl, hfits⟩
    · rw [if_neg hopen]
      rw [unifyTerm_closed hopen] at h
      exact follows_of_alike h
  | .named _, _, _, _, h => follows_of_alike h
  | .blank _, _, _, _, h => follows_of_alike h
  | .literal _, _, _, _, h => follows_of_alike h
  | .formula _, _, _, _, h => follows_of_alike h

theorem unifyItems_reads {g : Graph} (hwf : g.WellFormed) : ∀ {ts us : List Term} {x y : Extension},
    g.unifyItems ts us x = some y → Follows x y ∧ g.FitsAll (g.Reads y.1) ts us
  | [], [], x, y, h => by
    obtain rfl := Option.some.inj h
    exact ⟨.refl x, trivial⟩
  | [], _ :: _, _, _, h => by cases h
  | _ :: _, [], _, _, h => by cases h
  | t :: ts, u :: us, x, z, h => by
    rw [unifyItems, Option.bind_eq_some_iff] at h
    obtain ⟨y, hy, hz⟩ := h
    obtain ⟨hfirst, hfits⟩ := unifyTerm_reads hwf hy
    obtain ⟨hrest, hfits'⟩ := unifyItems_reads hwf hz
    exact ⟨hfirst.trans hrest, hfits.mono fun _ _ => Reads.follows hrest, hfits'⟩

end

theorem Unifies.reads {g : Graph} (hwf : g.WellFormed) {st found : Statement} {b : Bindings}
    {z : Extension} (h : g.Unifies st found b z) :
    Follows (b, []) z ∧ g.FitsStatement (g.Reads z.1) st found := by
  obtain ⟨x, y, hx, hy, hz⟩ := h
  obtain ⟨hbx, hsubject⟩ := unifyTerm_reads hwf hx
  obtain ⟨hxy, hpredicate⟩ := unifyTerm_reads hwf hy
  obtain ⟨hyz, hobject⟩ := unifyTerm_reads hwf hz
  exact ⟨(hbx.trans hxy).trans hyz, hsubject.mono fun _ _ => Reads.follows (hxy.trans hyz),
    hpredicate.mono fun _ _ => Reads.follows hyz, hobject⟩

/-- Under a proper name nothing that was bound is lost, each occurrence meets a term like what is
bound in the end, and what is bound anew passes its constraint. -/
theorem unifyStatement_reads {g : Graph} (hwf : g.WellFormed) {p : Pattern} {st found : Statement}
    {b out : Bindings} (h : g.unifyStatement p st found b = some out) :
    b.Keeps out ∧ g.FitsStatement (g.Reads out) st found ∧
    ∀ name, Proper name → name ∉ b.values → p.Admits out name := by
  obtain ⟨z, hz, hall, rfl⟩ := unifyStatement_eq_some.mp h
  obtain ⟨hfollows, hfits⟩ := hz.reads hwf
  refine ⟨hfollows.keeps, hfits, fun name hname hnew c t hc ht => ?_⟩
  rcases hfollows.bound name (Bindings.mem_values.mpr ⟨t, ht⟩) with hold | hnoted
  · exact absurd hold hnew
  · have hpasses := List.all_eq_true.mp hall name hnoted
    exact (passes_iff hname.bareName_eq).mp hpasses c t hc ht

end Graph

end QuadGraph
