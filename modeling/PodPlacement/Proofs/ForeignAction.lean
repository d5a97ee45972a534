import Mathlib.Data.List.Forall2
import PodPlacement.Proofs.Offer

/-!
# Actions of other types

Actions of other types mean nothing, but they are read as all actions are, and their type is
looked at after that.  So an action of another type can stand anywhere among the actions of an
offer without a change of what the offer means, if it has the shape of an action; if it has not,
it is a fault of the whole offer.

    items d i xs = .valid as ↔ List.Forall₂ (fun x a => d x = .valid a) xs as
                                                                    (items_eq_valid_iff_forall₂)
    (∃ a : OfferedAction, Document.read (.object members) = .valid a) ↔ IsActionShaped members
      when members.lookup "type" = some (.string type)                   (exists_action_read_iff)
    Adds a o o' → a.type ≠ placementType → ofOffer? o' = ofOffer? o             (ofOffer?_eq)
-/

namespace PodPlacement

/-! ## Lists of one length -/

section

variable {α β : Type} {R : α → β → Prop}

/-- What is matched with two lists, one after the other, is in two parts. -/
theorem forall₂_append_left_iff {xs ys : List α} {cs : List β} :
    List.Forall₂ R (xs ++ ys) cs ↔
      ∃ as bs, cs = as ++ bs ∧ List.Forall₂ R xs as ∧ List.Forall₂ R ys bs := by
  induction xs generalizing cs with
  | nil =>
    constructor
    · exact fun h => ⟨[], cs, rfl, .nil, h⟩
    · rintro ⟨as, bs, rfl, has, hbs⟩
      obtain rfl := List.forall₂_nil_left_iff.1 has
      exact hbs
  | cons x xs ih =>
    rw [List.cons_append, List.forall₂_cons_left_iff]
    constructor
    · rintro ⟨a, cs, ha, hcs, rfl⟩
      obtain ⟨as, bs, rfl, has, hbs⟩ := ih.1 hcs
      exact ⟨a :: as, bs, rfl, .cons ha has, hbs⟩
    · rintro ⟨as, bs, rfl, has, hbs⟩
      obtain ⟨a, as', ha, has', rfl⟩ := List.forall₂_cons_left_iff.1 has
      exact ⟨a, as' ++ bs, ha, ih.2 ⟨as', bs, rfl, has', hbs⟩, rfl⟩

end

/-! ## Reading part by part -/

namespace Checked

variable {α β : Type}

theorem exists_apply_eq_valid_iff {f : Checked (α → β)} {x : Checked α} :
    (∃ b, f.apply x = valid b) ↔ (∃ g, f = valid g) ∧ ∃ a, x = valid a := by
  simp only [apply_eq_valid_iff]
  constructor
  · rintro ⟨_, g, a, hf, hx, -⟩
    exact ⟨⟨g, hf⟩, a, hx⟩
  · rintro ⟨⟨g, hf⟩, a, hx⟩
    exact ⟨g a, g, a, hf, hx, rfl⟩

theorem exists_map_eq_valid_iff {f : α → β} {x : Checked α} :
    (∃ b, x.map f = valid b) ↔ ∃ a, x = valid a := by
  cases x <;> simp [map]

end Checked

namespace Decoder

variable {α : Type}

/-- Items are read together if and only if they are read one by one. -/
theorem items_eq_valid_iff_forall₂ {d : Decoder α} {i : Nat} {xs : List Json} {as : List α} :
    items d i xs = .valid as ↔ List.Forall₂ (fun x a => d x = .valid a) xs as := by
  induction xs generalizing i as with
  | nil =>
    rw [List.forall₂_nil_left_iff]
    exact ⟨fun h => (Checked.valid.inj h).symm, fun h => congrArg Checked.valid h.symm⟩
  | cons x xs ih =>
    rw [List.forall₂_cons_left_iff]
    unfold items
    simp only [Checked.apply_eq_valid_iff, Checked.within_eq_valid_iff, Checked.valid.injEq, ih]
    constructor
    · rintro ⟨_, as, ⟨_, a, rfl, ha, rfl⟩, has, rfl⟩
      exact ⟨a, as, ha, has, rfl⟩
    · rintro ⟨a, as, ha, has, rfl⟩
      exact ⟨_, as, ⟨_, a, rfl, ha, rfl⟩, has, rfl⟩

/-- A member with a default is read if and only if it is not there or its value is read. -/
theorem exists_optional_eq_valid_iff {key : String} {default : α} {d : Decoder α}
    {members : Members} : (∃ a, optional key default d members = .valid a) ↔
      ∀ value, members.lookup (.proper key) = some value → ∃ a, d value = .valid a := by
  unfold optional
  cases members.lookup (.proper key) with
  | none => simp
  | some value => simp [Checked.within_eq_valid_iff]

/-- A member that may be null is read if and only if it is null or its value is read. -/
theorem exists_nullable_eq_valid_iff {d : Decoder α} {input : Json} :
    (∃ a, nullable d input = .valid a) ↔ input = .null ∨ ∃ a, d input = .valid a := by
  cases input with
  | null => exact ⟨fun _ => .inl rfl, fun _ => ⟨none, rfl⟩⟩
  | bool | whole | real | string | array | object =>
    unfold nullable
    rw [Checked.exists_map_eq_valid_iff]
    simp

/-- A member is read as before where another one is put. -/
theorem optional_put_of_ne {key : String} {k : Text} (hne : Text.proper key ≠ k) (default : α)
    (d : Decoder α) (value : Json) (members : Members) :
    optional key default d (Json.put k value members) = optional key default d members := by
  unfold optional
  rw [Json.lookup_put_of_ne hne]

end Decoder

open Decoder

/-! ## The shape of an action -/

/-- What the members of an action have to be, whatever its type is: the target and the destination,
where they are given, are null or references, and the datastores for disks are well formed. -/
structure IsActionShaped (members : Members) : Prop where
  target : ∀ value, members.lookup (.proper "target") = some value →
    value = .null ∨ ∃ r, Reference.read value = .valid r
  destination : ∀ value, members.lookup (.proper "destination") = some value →
    value = .null ∨ ∃ r, Reference.read value = .valid r
  relocation : ∀ value, members.lookup (.proper "relocate_spec") = some value →
    ∃ o : RelocateOffer, Document.read value = .valid o

/-- Members that name a type are those of an action if and only if they have the shape of one. -/
theorem exists_action_read_iff {members : Members} {type : Text}
    (htype : members.lookup (.proper "type") = some (.string type)) :
    (∃ a : OfferedAction, Document.read (.object members) = .valid a) ↔
      IsActionShaped members := by
  have hread : ∀ value, members.lookup (.proper "type") = some value →
      ∃ t, text value = .valid t := by
    intro value hvalue
    rw [← Option.some.inj (htype.symm.trans hvalue)]
    exact ⟨type, rfl⟩
  show (∃ a, Checked.apply (Checked.apply (Checked.apply (Checked.apply _ _) _) _) _ = _) ↔ _
  simp only [Checked.exists_apply_eq_valid_iff, exists_optional_eq_valid_iff,
    exists_nullable_eq_valid_iff]
  constructor
  · rintro ⟨⟨⟨-, htarget⟩, hdestination⟩, hrelocation⟩
    exact ⟨htarget, hdestination, hrelocation⟩
  · rintro ⟨htarget, hdestination, hrelocation⟩
    exact ⟨⟨⟨⟨⟨_, rfl⟩, hread⟩, htarget⟩, hdestination⟩, hrelocation⟩

/-! ## Offers with one more action -/

namespace Offer

theorem read_eq_valid_iff {members : Members} {o : Offer} :
    Document.read (.object members) = Checked.valid o ↔
      Decoder.optional "key" (.proper "") text members = .valid o.key ∧
      Decoder.optional "reason" (.proper "") text members = .valid o.reason ∧
      Decoder.optional "rating" 0 whole members = .valid o.rating ∧
      Decoder.optional "actions" [] (list Document.read) members = .valid o.actions := by
  constructor
  · intro h
    obtain ⟨_, actions, hthree, hactions, rfl⟩ := Checked.apply_eq_valid_iff.1 h
    obtain ⟨_, rating, htwo, hrating, rfl⟩ := Checked.apply_eq_valid_iff.1 hthree
    obtain ⟨_, reason, hone, hreason, rfl⟩ := Checked.apply_eq_valid_iff.1 htwo
    obtain ⟨_, key, hmk, hkey, rfl⟩ := Checked.apply_eq_valid_iff.1 hone
    obtain rfl := Checked.valid.inj hmk
    exact ⟨hkey, hreason, hrating, hactions⟩
  · rintro ⟨hkey, hreason, hrating, hactions⟩
    show Checked.apply (Checked.apply (Checked.apply (Checked.apply _ _) _) _) _ = _
    rw [hkey, hreason, hrating, hactions]
    rfl

/-- Where the actions are given, they are those of the offer, one for one. -/
theorem optional_actions_eq_valid_iff {members : Members} {xs : List Json}
    (hxs : members.lookup (.proper "actions") = some (.array xs)) {as : List OfferedAction} :
    Decoder.optional "actions" [] (list Document.read) members = .valid as ↔
      List.Forall₂ (fun x a => Document.read x = Checked.valid a) xs as := by
  unfold Decoder.optional
  rw [hxs]
  show ((items _ 0 xs).within _) = _ ↔ _
  rw [Checked.within_eq_valid_iff, items_eq_valid_iff_forall₂]

/-- Members with one more action among those they have. -/
def withAction (members foreign : Members) (before after : List Json) : Members :=
  Json.put "actions" (.array (before ++ .object foreign :: after)) members

/-- An offer is another one with one more action somewhere, as far as either means something. -/
structure Adds (a : OfferedAction) (o o' : Offer) : Prop where
  key : o'.key = o.key
  actions : ∃ as bs, o.actions = as ++ bs ∧ o'.actions = as ++ a :: bs

/-- An action of another type is not among those that place. -/
theorem Adds.placements_eq {a : OfferedAction} {o o' : Offer} (h : Adds a o o')
    (ha : a.type ≠ placementType) : o'.placements = o.placements := by
  obtain ⟨as, bs, hwithout, hwith⟩ := h.actions
  unfold placements
  rw [hwithout, hwith, List.filter_append, List.filter_append, List.filter_cons_of_neg (by simpa)]

theorem Adds.ofOffer?_eq {a : OfferedAction} {o o' : Offer} (h : Adds a o o')
    (ha : a.type ≠ placementType) :
    Recommendation.ofOffer? o' = Recommendation.ofOffer? o := by
  unfold Recommendation.ofOffer?
  rw [h.placements_eq ha, h.key]

section

variable {members foreign : Members} {before after : List Json}

theorem read_withAction_eq_valid_iff {o : Offer} :
    Document.read (.object (withAction members foreign before after)) = Checked.valid o ↔
      Decoder.optional "key" (.proper "") text members = .valid o.key ∧
      Decoder.optional "reason" (.proper "") text members = .valid o.reason ∧
      Decoder.optional "rating" 0 whole members = .valid o.rating ∧
      List.Forall₂ (fun x a => Document.read x = Checked.valid a)
        (before ++ .object foreign :: after) o.actions := by
  unfold withAction
  rw [read_eq_valid_iff, optional_actions_eq_valid_iff (Json.lookup_put _ _ members),
    optional_put_of_ne (by decide), optional_put_of_ne (by decide), optional_put_of_ne (by decide)]

variable (hactions : members.lookup (.proper "actions") = some (.array (before ++ after)))

include hactions

/-- Where one more action is read, the offer is read with it. -/
theorem exists_read_withAction {a : OfferedAction} {o : Offer}
    (ha : Document.read (.object foreign) = Checked.valid a)
    (ho : Document.read (.object members) = Checked.valid o) :
    ∃ o', Document.read (.object (withAction members foreign before after)) = Checked.valid o' ∧
      Adds a o o' := by
  obtain ⟨hkey, hreason, hrating, hall⟩ := read_eq_valid_iff.1 ho
  rw [optional_actions_eq_valid_iff hactions] at hall
  obtain ⟨as, bs, hsplit, has, hbs⟩ := forall₂_append_left_iff.1 hall
  refine ⟨{ o with actions := as ++ a :: bs }, ?_, rfl, as, bs, hsplit, rfl⟩
  exact read_withAction_eq_valid_iff.2
    ⟨hkey, hreason, hrating, forall₂_append_left_iff.2 ⟨as, _, rfl, has, .cons ha hbs⟩⟩

/-- Where an offer is read with one more action, it is read without it, and so is the action. -/
theorem exists_read_of_withAction {o' : Offer}
    (ho' : Document.read (.object (withAction members foreign before after)) = Checked.valid o') :
    ∃ a o, Document.read (.object foreign) = Checked.valid a ∧
      Document.read (.object members) = Checked.valid o ∧ Adds a o o' := by
  obtain ⟨hkey, hreason, hrating, hall⟩ := read_withAction_eq_valid_iff.1 ho'
  obtain ⟨as, _, hsplit, has, hrest⟩ := forall₂_append_left_iff.1 hall
  obtain ⟨a, bs, ha, hbs, rfl⟩ := List.forall₂_cons_left_iff.1 hrest
  refine ⟨a, { o' with actions := as ++ bs }, ha, ?_, rfl, as, bs, rfl, hsplit⟩
  refine read_eq_valid_iff.2 ⟨hkey, hreason, hrating, ?_⟩
  rw [optional_actions_eq_valid_iff hactions]
  exact forall₂_append_left_iff.2 ⟨as, bs, rfl, has, hbs⟩

end

end Offer

/-! ## Recommendations with one more action -/

namespace Recommendation

theorem ofJson_of_valid {raw : Json} {o : Offer} (h : Document.read raw = Checked.valid o) :
    ofJson raw = (ofOffer? o).elim (.error (.noDestination o.key)) .ok := by
  unfold ofJson
  rw [h]
  cases hoffer : ofOffer? o with
  | none => simp [hoffer]
  | some r => simp [hoffer]

theorem ofJson_of_faulty {raw : Json} {faults : List Fault}
    (h : (Document.read raw : Checked Offer) = .faulty faults) :
    ofJson raw = .error (.faulty faults) := by
  unfold ofJson
  rw [h]

section

variable {members foreign : Members} {before after : List Json}
  (hactions : members.lookup (.proper "actions") = some (.array (before ++ after)))

include hactions

/-- With one more action of another type that is read, the outcome is as without it, or both are
faulty. -/
theorem ofJson_withAction_of_read {a : OfferedAction}
    (ha : Document.read (.object foreign) = Checked.valid a) (htype : a.type ≠ placementType) :
    ofJson (.object (Offer.withAction members foreign before after)) = ofJson (.object members) ∨
    (∃ faults, ofJson (.object (Offer.withAction members foreign before after)) =
      .error (.faulty faults)) ∧
    ∃ faults, ofJson (.object members) = .error (.faulty faults) := by
  cases ho : (Document.read (.object members) : Checked Offer) with
  | valid o =>
    obtain ⟨o', ho', hadds⟩ := Offer.exists_read_withAction hactions ha ho
    refine .inl ?_
    rw [ofJson_of_valid ho', ofJson_of_valid ho, hadds.ofOffer?_eq htype, hadds.key]
  | faulty faults =>
    refine .inr ⟨?_, faults, ofJson_of_faulty ho⟩
    cases ho' : (Document.read (.object (Offer.withAction members foreign before after)) :
        Checked Offer) with
    | valid o' =>
      obtain ⟨_, o, _, ho₂, _⟩ := Offer.exists_read_of_withAction hactions ho'
      cases ho.symm.trans ho₂
    | faulty faults' => exact ⟨faults', ofJson_of_faulty ho'⟩

/-- With one more action that is not read, the outcome is faulty. -/
theorem ofJson_withAction_of_not_read
    (hnot : ¬∃ a : OfferedAction, Document.read (.object foreign) = .valid a) :
    ∃ faults, ofJson (.object (Offer.withAction members foreign before after)) =
      .error (.faulty faults) := by
  cases ho' : (Document.read (.object (Offer.withAction members foreign before after)) :
      Checked Offer) with
  | valid o' =>
    obtain ⟨a, _, ha, _⟩ := Offer.exists_read_of_withAction hactions ho'
    exact absurd ⟨a, ha⟩ hnot
  | faulty faults => exact ⟨faults, ofJson_of_faulty ho'⟩

end

/-- **An action of another type is passed over if it has the shape of an action, and only then.**
Put anywhere among the actions of a recommendation, it changes neither what the recommendation is
nor whether there is one, nor the action without a destination that is complained about.  One that
has another shape is a fault of the whole, whatever the recommendation is without it. -/
theorem foreign_action_cases {members foreign : Members} {before after : List Json} {type : Text}
    (hactions : members.lookup (.proper "actions") = some (.array (before ++ after)))
    (htype : foreign.lookup (.proper "type") = some (.string type))
    (hforeign : type ≠ placementType) :
    (IsActionShaped foreign →
      (∀ r, ofJson (.object (Offer.withAction members foreign before after)) = .ok r ↔
        ofJson (.object members) = .ok r) ∧
      ∀ key, ofJson (.object (Offer.withAction members foreign before after)) =
          .error (.noDestination key) ↔
        ofJson (.object members) = .error (.noDestination key)) ∧
    (¬IsActionShaped foreign →
      ∃ faults, ofJson (.object (Offer.withAction members foreign before after)) =
        .error (.faulty faults)) := by
  constructor
  · intro hshaped
    obtain ⟨a, ha⟩ := (exists_action_read_iff htype).2 hshaped
    have hne : a.type ≠ placementType := by
      rw [Ne, OfferedAction.type_eq_iff_of_read foreign a ha, htype]
      simpa using hforeign
    obtain hsame | ⟨⟨_, hmore⟩, _, hless⟩ := ofJson_withAction_of_read hactions ha hne
    · rw [hsame]
      exact ⟨fun _ => Iff.rfl, fun _ => Iff.rfl⟩
    · rw [hmore, hless]
      exact ⟨fun _ => ⟨nofun, nofun⟩, fun _ => ⟨nofun, nofun⟩⟩
  · intro hnot
    exact ofJson_withAction_of_not_read hactions (mt (exists_action_read_iff htype).1 hnot)

/-- An action of the placement type, which places the machine on a datastore. -/
def placing (id : Text) : Json := .object [("destination", (Reference.datastore id).write)]

/-- A recommendation with two actions of the placement type. -/
def twofold : Members :=
  [("key", .string "k"), ("actions", .array ([placing "d-1"] ++ [placing "d-2"]))]

/-- A recommendation without actions. -/
def idle : Members := [("key", .string "k"), ("actions", .array [])]

/-- An action of another type that has the shape of an action. -/
def movement : Members :=
  [("type", .string "HostMoveAction"), ("target", .null), ("relocate_spec", .object []),
   ("host", .string "host-9")]

/-- An action of another type whose target is a name, and no reference. -/
def powerOff : Members := [("type", .string "HostPowerAction"), ("target", .string "host-9")]

theorem not_isActionShaped_powerOff : ¬IsActionShaped powerOff := by
  intro h
  obtain hnull | ⟨r, hr⟩ := h.target (.string "host-9") rfl
  · cases hnull
  · cases hr

theorem movement_is_passed_over :
    ofJson (.object twofold) =
      .ok ⟨"k", [.machine ⟨.datastore "d-1"⟩, .machine ⟨.datastore "d-2"⟩]⟩ ∧
    (∀ r, ofJson (.object (Offer.withAction twofold movement [placing "d-1"] [placing "d-2"])) =
        .ok r ↔
      ofJson (.object twofold) = .ok r) ∧
    ∃ faults,
      ofJson (.object (Offer.withAction twofold powerOff [placing "d-1"] [placing "d-2"])) =
        .error (.faulty faults) := by
  have hactions : twofold.lookup (.proper "actions") =
      some (.array ([placing "d-1"] ++ [placing "d-2"])) := rfl
  have hmovement : movement.lookup (.proper "type") = some (.string "HostMoveAction") := rfl
  have hshaped : IsActionShaped movement := (exists_action_read_iff hmovement).1 ⟨_, rfl⟩
  have hpowerOff : powerOff.lookup (.proper "type") = some (.string "HostPowerAction") := rfl
  obtain ⟨hsame, -⟩ := foreign_action_cases hactions hmovement (by decide)
  obtain ⟨-, hfaulty⟩ := foreign_action_cases hactions hpowerOff (by decide)
  exact ⟨rfl, (hsame hshaped).1, hfaulty not_isActionShaped_powerOff⟩

/-- An action of another type is not passed over whatever it holds: one more action that places
nothing keeps a recommendation from being one. -/
theorem power_action_is_a_fault :
    idle.lookup (.proper "actions") = some (.array ([] ++ [])) ∧
    powerOff.lookup (.proper "type") = some (.string "HostPowerAction") ∧
    ("HostPowerAction" : Text) ≠ placementType ∧
    ofJson (.object idle) = .ok ⟨"k", []⟩ ∧
    ofJson (.object (Offer.withAction idle powerOff [] [])) =
      .error (.faulty [⟨[.key "actions", .index 0, .key "target"],
        .notDocument "ManagedObjectReference", .string "host-9"⟩]) :=
  ⟨rfl, rfl, by decide, rfl, rfl⟩

end Recommendation

end PodPlacement
