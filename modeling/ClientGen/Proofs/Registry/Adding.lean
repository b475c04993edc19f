import ClientGen.Proofs.Node.Sameness
import ClientGen.Registry

/-! What a registry holds after a row of definitions has been added. Its definitions are among those
added, and every name added is there. Where nothing was refused or reported, every definition added
is the same as the one that stands under its name in the end. -/
namespace ClientGen

def Field.WellFormed {τ : Type} (f : Field τ) : Prop :=
  f.name.wellFormed = true ∧ f.comment.wellFormed = true

def Definition.WellFormed {τ : Type} (d : Definition τ) : Prop := ∀ f ∈ d.fields, f.WellFormed

theorem Field.sameSelf {f : Field String} (ok : f.WellFormed) : f.same f = true := by
  simp [Field.same, Node.sameSelf ok.1, Node.sameSelf ok.2]

theorem Field.sameTrans {a b c : Field String} (left : a.WellFormed) (right : b.WellFormed)
    (first : a.same b = true) (second : b.same c = true) : a.same c = true := by
  simp only [Field.same, Bool.and_eq_true, beq_iff_eq] at *
  obtain ⟨⟨⟨⟨name, type⟩, optional⟩, comment⟩, readonly⟩ := first
  obtain ⟨⟨⟨⟨name', type'⟩, optional'⟩, comment'⟩, readonly'⟩ := second
  exact ⟨⟨⟨⟨Node.sameTrans left.1 right.1 name name', type.trans type'⟩,
    optional.trans optional'⟩, Node.sameTrans left.2 right.2 comment comment'⟩,
    readonly.trans readonly'⟩

theorem sameFieldsSelf {fs : List (Field String)} (ok : ∀ f ∈ fs, f.WellFormed) :
    sameFields fs fs = true := by
  induction fs with
  | nil => rfl
  | cons f rest ih =>
    simp [sameFields, Field.sameSelf (ok f List.mem_cons_self),
      ih (fun g member => ok g (List.mem_cons_of_mem f member))]

theorem sameFieldsTrans {as bs cs : List (Field String)} (left : ∀ f ∈ as, f.WellFormed)
    (right : ∀ f ∈ bs, f.WellFormed) (first : sameFields as bs = true)
    (second : sameFields bs cs = true) : sameFields as cs = true := by
  induction as generalizing bs cs with
  | nil =>
    cases bs with
    | nil => exact second
    | cons b bs => simp [sameFields] at first
  | cons a as ih =>
    cases bs with
    | nil => simp [sameFields] at first
    | cons b bs =>
      cases cs with
      | nil => simp [sameFields] at second
      | cons c cs =>
        simp only [sameFields, Bool.and_eq_true] at first second ⊢
        have here := Field.sameTrans (left a List.mem_cons_self) (right b List.mem_cons_self)
          first.1 second.1
        exact ⟨here, ih (fun f member => left f (List.mem_cons_of_mem a member))
          (fun f member => right f (List.mem_cons_of_mem b member)) first.2 second.2⟩

namespace Definition

theorem sameSelf {d : Spelled} (ok : d.WellFormed) : d.same d = true := by
  simp [same, sameFieldsSelf ok]

theorem sameTrans {a b c : Spelled} (left : a.WellFormed) (right : b.WellFormed)
    (first : a.same b = true) (second : b.same c = true) : a.same c = true := by
  simp only [same, Bool.and_eq_true, beq_iff_eq] at *
  exact ⟨first.1.trans second.1, sameFieldsTrans left right first.2 second.2⟩

end Definition

namespace Registry

theorem setTypeMember {d t : Spelled} {ts : List Spelled} (member : t ∈ setType d ts) :
    t = d ∨ t ∈ ts := by
  induction ts with
  | nil => exact .inl (by simpa [setType] using member)
  | cons first rest ih =>
    simp only [setType] at member
    split at member
    · rcases List.mem_cons.mp member with same | inside
      · exact .inl same
      · exact .inr (List.mem_cons_of_mem first inside)
    · rcases List.mem_cons.mp member with rfl | inside
      · exact .inr List.mem_cons_self
      · exact (ih inside).imp_right (List.mem_cons_of_mem first)

theorem addAlike {r : Registry} {d : Spelled} (alike : r.differs d = false) :
    r.add d = (⟨r.strict, setType d r.types⟩, pure ()) := by
  simp [add, alike]

theorem addRefused {r : Registry} {d : Spelled} (other : r.differs d = true)
    (strict : r.strict = true) : r.add d = (r, Trail.fail (.typeCollision d.name)) := by
  simp [add, other, strict]

theorem addReported {r : Registry} {d : Spelled} (other : r.differs d = true)
    (lax : r.strict = false) :
    r.add d = (⟨r.strict, setType d r.types⟩, Trail.give (.redefined d.name)) := by
  simp [add, other, lax]

theorem addEnds {r : Registry} {d : Spelled} (ok : (r.add d).2.result = .ok ()) :
    (r.add d).1 = ⟨r.strict, setType d r.types⟩ := by
  cases other : r.differs d with
  | false => rw [addAlike other]
  | true =>
    cases strict : r.strict with
    | false => rw [addReported other strict, strict]
    | true => simp [addRefused other strict] at ok

theorem addQuiet {r : Registry} {d : Spelled} (ok : (r.add d).2.result = .ok ())
    (quiet : r.strict = true ∨ ∀ name, Event.redefined name ∉ (r.add d).2.given) :
    r.differs d = false := by
  cases other : r.differs d with
  | false => rfl
  | true =>
    cases strict : r.strict with
    | true => simp [addRefused other strict] at ok
    | false =>
      rcases quiet with quiet | quiet
      · simp [strict] at quiet
      · exact absurd (by simp [addReported other strict]) (quiet d.name)

def Holds (r : Registry) (d : Spelled) : Prop := ∃ e, r.find? d.name = some e ∧ d.same e = true

theorem findAdded {r : Registry} {d : Spelled} (ok : (r.add d).2.result = .ok ()) (name : String) :
    (r.add d).1.find? name = if d.name = name then some d else r.find? name := by
  rw [addEnds ok, find?, findSetType]
  by_cases h : d.name = name <;> simp [h, find?]

theorem addHolds {r : Registry} {d : Spelled} (formed : d.WellFormed)
    (ok : (r.add d).2.result = .ok ()) : (r.add d).1.Holds d :=
  ⟨d, by rw [findAdded ok, if_pos rfl], Definition.sameSelf formed⟩

theorem addKeeps {r : Registry} {d e : Spelled} (types : ∀ t ∈ r.types, t.WellFormed)
    (formed : e.WellFormed) (ok : (r.add d).2.result = .ok ()) (alike : r.differs d = false)
    (holds : r.Holds e) : (r.add d).1.Holds e := by
  obtain ⟨found, there, same⟩ := holds
  unfold Holds
  rw [findAdded ok]
  by_cases h : d.name = e.name
  · simp only [differs, h, there, Bool.not_eq_false'] at alike
    have member := List.mem_of_find?_eq_some there
    exact ⟨d, by rw [if_pos h], Definition.sameTrans formed (types found member) same alike⟩
  · exact ⟨found, by rw [if_neg h, there], same⟩

theorem addAllEnds {r : Registry} {d : Spelled} {rest : List Spelled}
    (ok : (r.addAll (d :: rest)).2.result = .ok ()) :
    (r.add d).2.result = .ok () ∧ ((r.add d).1.addAll rest).2.result = .ok () ∧
      (r.addAll (d :: rest)).1 = ((r.add d).1.addAll rest).1 ∧
      (r.addAll (d :: rest)).2.given =
        (r.add d).2.given ++ ((r.add d).1.addAll rest).2.given := by
  simp only [addAll] at ok ⊢
  cases first : (r.add d).2.result with
  | error fault => simp [first] at ok
  | ok _ =>
    simp only [first] at ok ⊢
    exact ⟨trivial, ok, trivial, trivial⟩

theorem strictAdded {r : Registry} {d : Spelled} (ok : (r.add d).2.result = .ok ()) :
    (r.add d).1.strict = r.strict := by
  rw [addEnds ok]

theorem typesAdded {r : Registry} {d t : Spelled} (ok : (r.add d).2.result = .ok ())
    (member : t ∈ (r.add d).1.types) : t = d ∨ t ∈ r.types := by
  rw [addEnds ok] at member
  exact setTypeMember member

theorem namesAdded {r : Registry} {d : Spelled} (ok : (r.add d).2.result = .ok ()) :
    d.name ∈ (r.add d).1.names ∧ r.names ⊆ (r.add d).1.names := by
  rw [addEnds ok]
  simp only [names, namesSetType]
  split
  · rename_i known
    exact ⟨known, List.Subset.refl _⟩
  · exact ⟨by simp, List.subset_append_left _ _⟩

theorem typesAmong {r : Registry} {ds : List Spelled} {t : Spelled}
    (member : t ∈ (r.addAll ds).1.types) : t ∈ ds ∨ t ∈ r.types := by
  induction ds generalizing r with
  | nil => exact .inr member
  | cons d rest ih =>
    simp only [addAll] at member
    cases first : (r.add d).2.result with
    | error fault =>
      simp only [first] at member
      cases other : r.differs d with
      | false => simp [addAlike other] at first
      | true =>
        cases strict : r.strict with
        | true => exact .inr (by rwa [addRefused other strict] at member)
        | false => simp [addReported other strict] at first
    | ok _ =>
      simp only [first] at member
      rcases ih member with inside | before
      · exact .inl (List.mem_cons_of_mem d inside)
      · exact (typesAdded first before).imp_left fun same => by simp [same]

theorem namesAddedAll {r : Registry} {ds : List Spelled}
    (ok : (r.addAll ds).2.result = .ok ()) :
    (∀ d ∈ ds, d.name ∈ (r.addAll ds).1.names) ∧ r.names ⊆ (r.addAll ds).1.names := by
  induction ds generalizing r with
  | nil => exact ⟨by simp, List.Subset.refl _⟩
  | cons d rest ih =>
    obtain ⟨first, others, last, _⟩ := addAllEnds ok
    obtain ⟨here, kept⟩ := namesAdded first
    obtain ⟨later, kept'⟩ := ih others
    rw [last]
    exact ⟨List.forall_mem_cons.mpr ⟨kept' here, later⟩, List.Subset.trans kept kept'⟩

theorem namesStayApart {r : Registry} (d : Spelled) (apart : r.names.Nodup) :
    (r.add d).1.names.Nodup := by
  have set : ((setType d r.types).map (·.name)).Nodup := by
    rw [namesSetType]
    split
    · exact apart
    · rename_i free
      refine List.nodup_append.mpr ⟨apart, by simp, fun name member other last => ?_⟩
      rintro rfl
      exact free (List.mem_singleton.mp last ▸ member)
  cases other : r.differs d with
  | false => rwa [addAlike other]
  | true =>
    cases strict : r.strict with
    | true => rwa [addRefused other strict]
    | false => rwa [addReported other strict]

theorem namesApart {r : Registry} (ds : List Spelled) (apart : r.names.Nodup) :
    (r.addAll ds).1.names.Nodup := by
  induction ds generalizing r with
  | nil => exact apart
  | cons d rest ih =>
    have here := namesStayApart d apart
    simp only [addAll]
    cases first : (r.add d).2.result with
    | error fault => exact here
    | ok _ => exact ih here

theorem addAllHolds {r : Registry} {ds : List Spelled} (formed : ∀ d ∈ ds, d.WellFormed)
    (types : ∀ t ∈ r.types, t.WellFormed) (ok : (r.addAll ds).2.result = .ok ())
    (quiet : r.strict = true ∨ ∀ name, Event.redefined name ∉ (r.addAll ds).2.given) :
    (∀ d ∈ ds, (r.addAll ds).1.Holds d) ∧
      ∀ e : Spelled, e.WellFormed → r.Holds e → (r.addAll ds).1.Holds e := by
  induction ds generalizing r with
  | nil => exact ⟨by simp, fun e _ holds => holds⟩
  | cons d rest ih =>
    obtain ⟨first, others, last, given⟩ := addAllEnds ok
    obtain ⟨here, formed⟩ := List.forall_mem_cons.mp formed
    rw [given] at quiet
    have alike : r.differs d = false :=
      addQuiet first (quiet.imp_right fun silent name member =>
        silent name (List.mem_append_left _ member))
    have types' : ∀ t ∈ (r.add d).1.types, t.WellFormed := by
      intro t member
      rcases typesAdded first member with rfl | before
      · exact here
      · exact types t before
    obtain ⟨later, kept⟩ := ih formed types' others (by
      rw [strictAdded first]
      exact quiet.imp_right fun silent name member =>
        silent name (List.mem_append_right _ member))
    rw [last]
    refine ⟨List.forall_mem_cons.mpr ⟨kept d here (addHolds here first), later⟩, ?_⟩
    exact fun e formed holds => kept e formed (addKeeps types formed first alike holds)

theorem absorbEnds {α : Type} {r : Registry} {t : Trail Spelled α} {a : α}
    (ok : (r.absorb t).2.result = .ok a) :
    (r.addAll t.given).2.result = .ok () ∧ t.result = .ok a ∧
      (r.absorb t).1 = (r.addAll t.given).1 ∧
      (r.absorb t).2.given = (r.addAll t.given).2.given := by
  simp only [absorb] at ok ⊢
  cases added : (r.addAll t.given).2.result with
  | error fault => simp [added] at ok
  | ok _ => exact ⟨rfl, by simpa only [added] using ok, trivial, trivial⟩

end Registry
end ClientGen
