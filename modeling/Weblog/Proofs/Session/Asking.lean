/-
  What a session is asked to do keeps entities in good order.

  Presence validation goes by the list of required names that a record may hold itself, and by the
  question that may be replaced in it. Who sets neither, and gives no text by the value that is no
  number, leaves presence validation alone (`Given.IsOrdinary`).
-/
import Weblog.Proofs.Search.Found
import Weblog.Proofs.Session.Relating
import Weblog.Session.Step

namespace Weblog

open Session (Given IsOrderly Holding)

/-! ## Steps -/

/-- A step that only shows something. -/
def Session.Step.shows : Session.Step → Bool
  | .display _ | .validate _ | .describe _ | .listRelated .. | .find .. | .readTables
  | .search .. => true
  | _ => false

/-! ## What is given -/

/-- What is given for an attribute leaves presence validation alone. -/
def Session.Given.IsOrdinary (name : String) (g : Given) : Prop :=
  name ≠ Attribute.presenceName ∧ name ≠ "validate" ∧
    (g = .value (.float .nan) → ∀ k : Kind, name ∉ k.required.map Column.text)

instance (name : String) (g : Given) : Decidable (g.IsOrdinary name) :=
  have : Decidable (∀ k : Kind, name ∉ k.required.map Column.text) :=
    decidable_of_iff (∀ k ∈ Kind.all, name ∉ k.required.map Column.text)
      ⟨fun h k => h k (by cases k <;> decide), fun h k _ => h k⟩
  inferInstanceAs (Decidable (_ ∧ _ ∧ (_ → _)))

theorem Kind.text_of_column? {k : Kind} {name : String} {c : Column} (h : k.column? name = some c) :
    c.text = name := by
  have found := List.find?_some h
  exact eq_of_beq found

/-- What is read for a required column can be stored, if it is a number. -/
theorem Cell.isPlain_of_read {k : Kind} {c : Column} {v : Json} {w : Cell} (hc : c ∈ k.required)
    (h : Cell.read c v = .ok w) (number : v ≠ .float .nan) : w.IsPlain := by
  have texts : c.type = .text := by
    revert hc
    cases k <;> cases c <;> decide
  unfold Cell.read at h
  rw [texts] at h
  cases v with
  | float x =>
    obtain rfl := Except.ok.inj h
    exact fun same => number (congrArg Json.float same)
  | _ =>
    obtain rfl := Except.ok.inj h
    trivial

theorem Entity.orderly_setCell {e : Entity} (h : e.Orderly) {c : Column} {v : Cell}
    (plain : ∀ k : Kind, c ∈ k.required → v.IsPlain) (old : Former Cell) :
    (e.setCell c old v).Orderly where
  plain := by
    intro d hd w hw
    rw [held?_setCell] at hw
    split at hw
    · rename_i same
      subst same
      exact Option.some.inj hw ▸ plain e.kind hd
    · exact h.plain d hd w hw
  untouched := fun untouched => by cases untouched
  keyed := h.keyed
  given := by
    intro d hd held stale
    rw [lookup_formerCells_setCell]
    rw [held?_setCell] at held
    by_cases same : d = c
    · rw [decide_eq_true same, Bool.true_or]
    · rw [if_neg same] at held
      exact Bool.or_eq_true_iff.mpr (.inr (h.given d hd held stale))
  ruled := h.ruled

theorem Entity.orderly_expired (e : Entity) (h : e.Orderly) : e.expired.Orderly where
  plain := fun _ _ _ h => by cases h
  untouched := fun _ _ _ _ h => by cases h
  keyed := h.keyed
  given := fun _ _ h => by cases h
  ruled := h.ruled

theorem Entity.orderly_fresh (k : Kind) : (Entity.fresh k).Orderly where
  plain := fun _ _ _ h => by cases h
  untouched := fun _ _ _ _ h => by cases h
  keyed := fun h => by cases h
  given := fun _ _ h => by cases h
  ruled := ⟨rfl, rfl⟩

namespace Session.Work

variable {r : Ref} {c : Column} {rel : Relation} {name : String} {g : Given}

/-! ## Setting -/

/-- Setting any column to what can be stored in it. -/
theorem keeps_setPlain (r : Ref) {v : Cell} (plain : ∀ k : Kind, c ∈ k.required → v.IsPlain) :
    Keeps IsOrderly (setValue r c v) fun _ => True := by
  refine Keeps.bind (keeps_look r) fun e _ =>
    Keeps.readied (keeps_revive closed_orderly.calm.still) ?_
  exact keeps_change fun e he => e.orderly_setCell he plain _

theorem keeps_checked {I : Session → Prop} {α : Type} (x : Except AttributeError α) :
    Keeps I (checked x) fun _ => True := by
  cases x with
  | ok a => exact Keeps.pure trivial
  | error e => exact Keeps.throw rfl

theorem keeps_refuse {I : Session → Prop} {α : Type} (e : AttributeError) {Q : α → Prop} :
    Keeps I (refuse e) Q := Keeps.throw rfl

theorem keeps_readable {I : Session → Prop} (name : String) (g : Given) :
    Keeps I (readable name g) fun _ => True := by
  unfold readable
  split
  · exact Keeps.throw rfl
  · exact Keeps.pure trivial

theorem keeps_assignColumn (r : Ref) (ordinary : g.IsOrdinary c.text) :
    Keeps IsOrderly (assignColumn r c g) fun _ => True := by
  cases g with
  | value v =>
    unfold assignColumn
    dsimp only
    split
    · rename_i w hread
      refine keeps_setPlain r fun k hc => Cell.isPlain_of_read hc hread ?_
      rintro rfl
      exact ordinary.2.2 rfl k (List.mem_map_of_mem hc)
    · exact Keeps.throw rfl
  | entity _ => exact Keeps.throw rfl
  | entities _ => exact Keeps.throw rfl

theorem KeptByRelating.assignRelation {I : Session → Prop} (h : KeptByRelating I) (r : Ref)
    (rel : Relation) (g : Given) : Keeps I (assignRelation r rel g) fun _ => True := by
  unfold Work.assignRelation
  split
  · exact h.setMembers r rel _
  · exact Keeps.bind (keeps_look _) fun _ _ => keeps_refuse _
  · exact Keeps.bind (h.setNulls r rel _) fun old _ => Keeps.bind (keeps_checked _) fun _ _ =>
      Keeps.forM fun c _ => h.detach r rel c
  · exact keeps_checked _
  · exact h.relateTo r rel _
  · exact Keeps.bind (h.glanceOwner r rel) fun _ _ => keeps_refuse _
  · exact h.relateTo r rel none
  · exact Keeps.bind (h.glanceOwner r rel) fun _ _ => keeps_refuse _

theorem keeps_assign (r : Ref) (ordinary : g.IsOrdinary name) :
    Keeps IsOrderly (assign r name g) fun _ => True := by
  refine Keeps.bind (keeps_readable name g) fun _ _ => ?_
  refine Keeps.bind (keeps_look r) fun e _ => ?_
  dsimp only
  split
  · rename_i c _ hc
    exact keeps_assignColumn r ((Kind.text_of_column? hc).symm ▸ ordinary)
  · exact keptByRelating_orderly.assignRelation r _ _
  · refine Keeps.bind (keeps_checked _) fun _ _ => ?_
    refine keeps_change fun e he => ?_
    obtain ⟨required, question⟩ := he.ruled
    refine ⟨he.plain, he.untouched, he.keyed, he.given, ?_, ?_⟩
    · rw [Json.lookup_put, if_neg ordinary.1.symm]
      exact required
    · rw [Json.lookup_put, if_neg ordinary.2.1.symm]
      exact question
  · exact keeps_checked _

theorem keeps_create (k : Kind) {attributes : List (String × Given)}
    (ordinary : ∀ a ∈ attributes, a.2.IsOrdinary a.1) :
    Keeps IsOrderly (create k attributes) fun _ => True := by
  refine Keeps.bind (Keeps.forM fun a _ => keeps_readable a.1 a.2) fun _ _ => ?_
  refine Keeps.bind (keeps_checked _) fun _ _ => ?_
  refine Keeps.bind (Q := fun _ => True) ?_ fun r _ => ?_
  · exact Keeps.bind Keeps.get fun s hs => Keeps.bind
      (Keeps.set (hs.push fun _ => Entity.orderly_fresh k)) fun _ _ => Keeps.pure trivial
  · refine Keeps.bind (Keeps.forM fun a ha => ?_) fun _ _ => Keeps.pure trivial
    have set := keeps_assign r (ordinary a ha)
    refine Keeps.ite (fun _ => ?_) fun _ => set
    exact Keeps.bind (Q := fun _ => True) (keeps_refuse _) fun _ _ => set

/-! ## Showing -/

/-- A property of sessions that is kept when entities are shown, which reads their members too. -/
structure KeptByShowing (I : Session → Prop) : Prop extends KeptByReading I where
  members : ∀ r rel, Keeps I (members r rel) fun _ => True

namespace KeptByShowing

variable {I : Session → Prop}

theorem idsOf (h : KeptByShowing I) (rs : List Ref) : Keeps I (idsOf rs) fun _ => True :=
  (Keeps.mapM_all (R := fun _ => True) fun r _ => h.value r .id).done

theorem memberIds (h : KeptByShowing I) (r : Ref) (rel : Relation) :
    Keeps I (memberIds r rel) fun _ => True := by
  refine Keeps.bind (h.members r rel) fun ms _ => ?_
  refine Keeps.bind (keeps_look r) fun e _ => ?_
  refine Keeps.ite (fun _ => ?_) fun _ => h.idsOf ms
  exact Keeps.bind (Q := fun _ => True) (keeps_refuse _) fun _ _ => h.idsOf ms

theorem display (h : KeptByShowing I) (r : Ref) : Keeps I (display r) fun _ => True := by
  refine Keeps.bind (keeps_look r) fun e _ => ?_
  refine Keeps.bind (Keeps.mapM_all (R := fun _ => True) fun c _ => Keeps.bind
    (h.value r c) fun _ _ => Keeps.pure trivial) fun cells _ => ?_
  refine Keeps.ite (fun _ => ?_) fun _ => Keeps.pure trivial
  exact Keeps.bind (h.memberIds r .tags) fun _ _ => Keeps.bind (h.members r .comments) fun _ _ =>
    Keeps.bind (keeps_look r) fun _ _ => Keeps.pure trivial

theorem describe (h : KeptByShowing I) (r : Ref) : Keeps I (describe r) fun _ => True :=
  Keeps.bind (h.value r .id) fun _ _ => Keeps.bind (h.value r .title) fun _ _ =>
    Keeps.bind (keeps_look r) fun _ _ => Keeps.pure trivial

theorem isBlankNamed (h : KeptByShowing I) (r : Ref) (name : String) :
    Keeps I (isBlankNamed r name) fun _ => True := by
  refine Keeps.bind (keeps_look r) fun e _ => ?_
  split
  · exact Keeps.bind (h.value r _) fun _ _ => Keeps.pure trivial
  · refine Keeps.ite (fun _ => ?_) fun _ => ?_
    · exact Keeps.bind (h.members r _) fun _ _ => Keeps.pure trivial
    · exact Keeps.bind (h.owner r _) fun _ _ => Keeps.pure trivial
  · exact Keeps.pure trivial

theorem complaints (h : KeptByShowing I) (r : Ref) : Keeps I (complaints r) fun _ => True := by
  refine Keeps.bind (keeps_look r) fun e _ => Keeps.bind (keeps_checked _) fun _ _ => ?_
  refine Keeps.bind (keeps_checked _) fun required _ => ?_
  exact Keeps.bind (Keeps.filterM fun name _ => h.isBlankNamed r name) fun _ _ =>
    Keeps.pure trivial

theorem ask (h : KeptByShowing I) (r : Ref) : Keeps I (ask r) fun _ => True := by
  refine Keeps.bind (keeps_look r) fun e _ => ?_
  have asked : Keeps I (do
      checked (Presence.checkAskable e.extras "is_valid")
      let cs ← Work.complaints r
      checked (Presence.checkAskable e.extras "full_messages")
      return cs) fun _ => True :=
    Keeps.bind (keeps_checked _) fun _ _ => Keeps.bind (h.complaints r) fun _ _ =>
      Keeps.bind (keeps_checked _) fun _ _ => Keeps.pure trivial
  refine Keeps.ite (fun _ => ?_) fun _ => asked
  exact Keeps.bind (Q := fun _ => True) (keeps_refuse _) fun _ _ => asked

theorem listRelated (h : KeptByShowing I) (r : Ref) (name : String) :
    Keeps I (listRelated r name) fun _ => True := by
  refine Keeps.bind (keeps_look r) fun e _ => ?_
  dsimp only
  split
  · exact keeps_refuse _
  · refine Keeps.bind (h.value r _) fun v _ => ?_
    exact Keeps.ite (fun _ => Keeps.pure trivial) fun _ => keeps_refuse _
  · refine Keeps.ite (fun _ => ?_) fun _ => ?_
    · exact Keeps.bind (h.memberIds r _) fun _ _ => Keeps.pure trivial
    · refine Keeps.bind (h.owner r _) fun o _ => ?_
      split
      · exact Keeps.pure trivial
      · exact Keeps.bind (h.value _ .id) fun _ _ => Keeps.pure trivial

theorem search (h : KeptByShowing I) (k : Kind) (query : String) (limit : Option Int) :
    Keeps I (search k query limit) fun _ => True := by
  refine Keeps.ite (fun _ => Keeps.pure trivial) fun _ => ?_
  refine Keeps.bind Keeps.reaching fun s hs => ?_
  dsimp only
  split
  · exact Keeps.failing rfl
  refine Keeps.bind (Keeps.optionForM fun n _ => (Keeps.bindCell _ _).done) fun _ _ => ?_
  split
  · exact Keeps.throw rfl
  · rename_i rows found
    refine (Keeps.mapM_all (R := fun _ => True) fun row hrow => ?_).done
    exact h.adopt hs (Search.subset_of_found found hrow)

theorem searchFor (h : KeptByShowing I) (k : Kind) (query limit : Json) :
    Keeps I (searchFor k query limit) fun _ => True := by
  refine Keeps.bind (Q := fun _ => True) ?_ fun query _ => ?_
  · unfold queryText
    split
    · exact Keeps.pure trivial
    · exact Keeps.ite (fun _ => Keeps.pure trivial) fun _ => keeps_refuse _
  · refine Keeps.ite (fun _ => Keeps.pure trivial) fun _ => ?_
    refine Keeps.bind (Q := fun _ => True) ?_ fun limit _ => h.search k query limit
    refine Keeps.ite (fun _ => Keeps.pure trivial) fun _ => ?_
    split
    · exact Keeps.pure trivial
    · exact Keeps.throw rfl

/-- Steps that only show something keep what showing keeps. -/
theorem take {x : Step} (h : KeptByShowing I) (now : Instant) (shows : x.shows = true) :
    Keeps I (take now x) fun _ => True := by
  cases x with
  | display r => exact Keeps.bind (h.display r) fun _ _ => Keeps.pure trivial
  | validate r => exact Keeps.bind (h.ask r) fun _ _ => Keeps.pure trivial
  | describe r => exact Keeps.bind (h.describe r) fun _ _ => Keeps.pure trivial
  | listRelated r name => exact h.listRelated r name
  | find k id =>
    refine Keeps.bind (h.find k id) fun o _ => ?_
    split
    · exact Keeps.bind (h.display _) fun _ _ => Keeps.pure trivial
    · exact Keeps.pure trivial
  | readTables => exact Keeps.bind Keeps.reaching fun _ _ => Keeps.pure trivial
  | search k query limit =>
    exact Keeps.bind (h.searchFor k query limit) fun rs _ =>
      Keeps.bind (h.idsOf rs) fun _ _ => Keeps.pure trivial
  | _ => cases shows

end KeptByShowing

theorem KeptByRelating.keptByShowing {I : Session → Prop} (h : KeptByRelating I) :
    KeptByShowing I where
  toKeptByReading := h.toKeptByReading
  members := h.members

theorem KeptByRelating.manyNamed {I : Session → Prop} (h : KeptByRelating I) (r : Ref)
    (name verb : String) : Keeps I (manyNamed r name verb) fun _ => True := by
  refine Keeps.bind (keeps_look r) fun e _ => ?_
  dsimp only
  split
  · refine Keeps.ite (fun _ => Keeps.pure trivial) fun _ => ?_
    refine Keeps.bind (h.owner r _) fun o _ => ?_
    split
    · exact Keeps.bind (keeps_look _) fun _ _ => keeps_refuse _
    · exact keeps_refuse _
  · exact Keeps.bind (h.value r _) fun _ _ => keeps_refuse _
  · exact keeps_refuse _

/-! ## Transactions -/

theorem keeps_refresh (r : Ref) : Keeps IsOrderly (refresh r) fun _ => True := by
  refine Triple.look (fun s hs _ => ⟨hs, rfl⟩) fun s e hs he => ?_
  split
  · refine of_having (S := fun e' => e'.kind = e.kind) hs he rfl ?_
    refine Keeps.bind (keeps_having (fun e he _ => e.orderly_expired he) fun _ => id) fun _ _ => ?_
    refine Keeps.bind (keeps_row? _ _) fun o found => ?_
    split
    · exact Keeps.throw rfl
    · rename_i row
      obtain ⟨kind, filled⟩ := found row rfl
      refine keeps_having (fun e' he' same => ?_) fun _ => id
      exact (e'.steady_fill (filled trivial) (kind.trans same.symm) _).orderly he'
  · exact Triple.throw fun s' h => ⟨h ▸ hs, rfl⟩

theorem keeps_delete (r : Ref) : Keeps IsOrderly (delete r) fun _ => True := by
  refine Triple.look (fun s hs _ => ⟨hs, rfl⟩) fun s e hs he => ?_
  split
  · exact Triple.throw fun s' h => ⟨h ▸ hs, rfl⟩
  · rename_i key hkey
    refine of_having (S := fun e => e.key?.isSome = true) hs he (by rw [hkey]; rfl) ?_
    refine Keeps.ite (fun _ => Keeps.pure trivial) fun _ => ?_
    have doomed : Keeps (Holding True 0 (Having (fun e => e.key?.isSome = true) r))
        (alter r fun e => { e with isMapped := true, isAttached := true, isDoomed := true })
        fun _ => True :=
      keeps_having (fun e he keyed => he.restand rfl rfl rfl rfl rfl id fun _ => keyed) fun _ => id
    refine Keeps.bind Keeps.get fun _ _ => ?_
    split
    · exact Keeps.guard rfl fun _ => doomed
    · exact doomed

end Session.Work

end Weblog
