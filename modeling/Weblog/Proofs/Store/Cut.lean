/-
  Taking out a row: which rows of other tables go with it.

  Rows of a kind are told apart by their identifiers (`Tables.IsKeyed`). With a post or a tag go the
  links that name it and whose other end is there, and with references enforced all links that name
  it; with a post goes its document. `Tables.Cut` says that nothing else goes and nothing is changed.
-/
import Mathlib.Data.List.Nodup
import Weblog.Proofs.Store.Filled
import Weblog.Proofs.Store.Shelf

namespace Weblog

/-- Whether a link names a row. -/
def Row.isLinked : Row → Link → Bool
  | .post p, l => l.postId = p.id
  | .tag g, l => l.tagId = g.id
  | _, _ => false

/-- The link between a post and a tag, told from either of them. -/
def Row.linkTo (row m : Row) : Link :=
  if row.kind = .post then ⟨row.id, m.id⟩ else ⟨m.id, row.id⟩

namespace Tables

variable {t t' : Tables} {row : Row} {k : Kind} {id : String} {rel : Relation} {l : Link}

/-- Identifiers are the rows' own. -/
def IsKeyed (t : Tables) : Prop := ∀ k, ((t.rows k).map Row.id).Nodup

/-- Whether both ends of a link are there. -/
def joins (t : Tables) (l : Link) : Bool := (t.post? l.postId).isSome && (t.tag? l.tagId).isSome

/-- Tables without some links. -/
def withoutLinks (t : Tables) (ls : List Link) : Tables :=
  { t with links := t.links.filter (· ∉ ls) }

/-- Tables without a row and, where references are enforced, without the links that name it. -/
def withoutRow (enforces : Bool) (row : Row) (t : Tables) : Tables :=
  { t.dropRow row.kind row.id with
    links := t.links.filter fun l => !(enforces && row.isLinked l) }

theorem withoutLinks_nil (t : Tables) : t.withoutLinks [] = t := by
  have all : t.links.filter (· ∉ ([] : List Link)) = t.links :=
    List.filter_eq_self.mpr fun l _ => decide_eq_true List.not_mem_nil
  rw [withoutLinks, all]

/-- Tables that a row was taken out of, with the links and the document that go with it. -/
structure Cut (enforces : Bool) (row : Row) (t t' : Tables) : Prop where
  rows : ∀ k, t'.rows k = (t.rows k).filter (· ≠ row)
  links : t'.links = t.links.filter fun l => !(row.isLinked l && (enforces || t.joins l))
  documents : t'.documents = t.documents.filter fun d =>
    !(row.kind = .post && d.recordType = Kind.post.table && d.recordId = row.id)

/-! ## Rows by identifier -/

theorem row?_eq_find? (t : Tables) (k : Kind) (id : String) :
    t.row? k id = (t.rows k).find? (·.id = id) := by
  cases k <;> (rw [rows, List.find?_map]; rfl)

theorem id_of_row? (h : t.row? k id = some row) : row.id = id := by
  rw [row?_eq_find?] at h
  simpa using List.find?_some h

/-- Rows with the same identifier are the same. -/
theorem IsKeyed.eq_of_id (h : t.IsKeyed) {row' : Row} (hrow : row ∈ t.rows k)
    (hrow' : row' ∈ t.rows k) (same : row.id = row'.id) : row = row' :=
  List.inj_on_of_nodup_map (h k) hrow hrow' same

/-- A row is found by its identifier. -/
theorem IsKeyed.row?_of_mem (h : t.IsKeyed) (hrow : row ∈ t.rows k) :
    t.row? k row.id = some row := by
  rw [row?_eq_find?]
  exact find?_of_only hrow (decide_eq_true rfl) fun _ hrow' same =>
    h.eq_of_id hrow' hrow (of_decide_eq_true same)

theorem IsKeyed.row?_of_related (h : t.IsKeyed) (hrow : row ∈ t.related k id rel) :
    t.row? row.kind row.id = some row := by
  obtain ⟨k', mem⟩ := exists_mem_of_related hrow
  rw [kind_of_mem mem]
  exact h.row?_of_mem mem

/-! ## Linked rows -/

theorem mem_links_tagsOf {p : PostRow} :
    l ∈ ((t.tagsOf p.id).map Row.tag).map (Row.post p).linkTo ↔
      l ∈ t.links ∧ l.postId = p.id ∧ ∃ g ∈ t.tags, g.id = l.tagId := by
  simp only [List.map_map, List.mem_map, tagsOf, List.mem_filter, carries, List.contains_iff_mem]
  constructor
  · rintro ⟨g, ⟨hg, linked⟩, rfl⟩
    exact ⟨linked, rfl, g, hg, rfl⟩
  · rintro ⟨linked, post, g, hg, tag⟩
    have same : (⟨p.id, g.id⟩ : Link) = l := by rw [← post, tag]
    exact ⟨g, ⟨hg, same ▸ linked⟩, same⟩

theorem mem_links_postsOf {g : TagRow} :
    l ∈ ((t.postsOf g.id).map Row.post).map (Row.tag g).linkTo ↔
      l ∈ t.links ∧ l.tagId = g.id ∧ ∃ p ∈ t.posts, p.id = l.postId := by
  simp only [List.map_map, List.mem_map, postsOf, List.mem_filter, carries, List.contains_iff_mem]
  constructor
  · rintro ⟨p, ⟨hp, linked⟩, rfl⟩
    exact ⟨linked, rfl, p, hp, rfl⟩
  · rintro ⟨linked, tag, p, hp, post⟩
    have same : (⟨p.id, g.id⟩ : Link) = l := by rw [← tag, post]
    exact ⟨p, ⟨hp, same ▸ linked⟩, same⟩

/-- Links are read as the tags of a post and as the posts of a tag. -/
theorem linking_cases (hrel : rel ∈ k.relations)
    (linking : (rel.isMany && (Kind.inverse k rel).isMany) = true) :
    k = .post ∧ rel = .tags ∨ k = .tag ∧ rel = .posts := by
  revert linking hrel
  cases k <;> cases rel <;> decide

/-- The links between a row and the rows that its links lead to are those that name it and whose
ends are there. -/
theorem mem_links_related (hrow : row ∈ t.rows row.kind) (hrel : rel ∈ row.kind.relations)
    (linking : (rel.isMany && (Kind.inverse row.kind rel).isMany) = true) :
    l ∈ (t.related row.kind row.id rel).map row.linkTo ↔
      l ∈ t.links ∧ (row.isLinked l && t.joins l) = true := by
  have posts : (t.post? l.postId).isSome = true ↔ ∃ p ∈ t.posts, p.id = l.postId := by
    simp [post?]
  have tags : (t.tag? l.tagId).isSome = true ↔ ∃ g ∈ t.tags, g.id = l.tagId := by
    simp [tag?]
  rw [Bool.and_eq_true_iff, joins, Bool.and_eq_true_iff, posts, tags]
  have sides := linking_cases hrel linking
  cases row with
  | user u => obtain ⟨kind, -⟩ | ⟨kind, -⟩ := sides <;> cases kind
  | comment c => obtain ⟨kind, -⟩ | ⟨kind, -⟩ := sides <;> cases kind
  | post p =>
    obtain ⟨-, rfl⟩ | ⟨kind, -⟩ := sides
    · obtain ⟨p', hp, same⟩ := List.mem_map.mp hrow
      obtain rfl := Row.post.inj same
      refine mem_links_tagsOf.trans (and_congr_right fun _ => ?_)
      simp only [Row.isLinked, decide_eq_true_eq]
      exact and_congr_right fun post => ⟨fun tag => ⟨⟨p', hp, post.symm⟩, tag⟩, And.right⟩
    · cases kind
  | tag g =>
    obtain ⟨kind, -⟩ | ⟨-, rfl⟩ := sides
    · cases kind
    · obtain ⟨g', hg, same⟩ := List.mem_map.mp hrow
      obtain rfl := Row.tag.inj same
      refine mem_links_postsOf.trans (and_congr_right fun _ => ?_)
      simp only [Row.isLinked, decide_eq_true_eq]
      exact and_congr_right fun tag => ⟨fun post => ⟨post, ⟨g', hg, tag.symm⟩⟩, And.left⟩

/-- Where a kind has no relation of links, no link names its rows. -/
theorem isLinked_eq_false (row : Row) (l : Link)
    (none : ∀ rel ∈ row.kind.relations, (rel.isMany && (Kind.inverse row.kind rel).isMany) = false) :
    row.isLinked l = false := by
  cases row with
  | post p => cases none .tags (List.mem_of_elem_eq_true rfl)
  | tag g => cases none .posts (List.mem_of_elem_eq_true rfl)
  | _ => rfl

/-- The rows that links lead to are each linked once. -/
theorem IsKeyed.nodup_links (h : t.IsKeyed) (hrel : rel ∈ row.kind.relations)
    (linking : (rel.isMany && (Kind.inverse row.kind rel).isMany) = true) :
    ((t.related row.kind row.id rel).map row.linkTo).Nodup := by
  have ids : ((t.related row.kind row.id rel).map Row.id).Nodup := by
    rcases linking_cases hrel linking with ⟨kind, rfl⟩ | ⟨kind, rfl⟩ <;> rw [kind]
    · exact (h .tag).sublist ((List.filter_sublist.map _).map _)
    · exact (h .post).sublist ((List.filter_sublist.map _).map _)
  have ends : row.linkTo = (fun id => if row.kind = .post then ⟨row.id, id⟩ else ⟨id, row.id⟩) ∘
    Row.id := rfl
  rw [ends, ← List.map_map]
  refine ids.map fun id id' same => ?_
  split at same
  · exact congrArg Link.tagId same
  · exact congrArg Link.postId same

/-! ## What is left -/

/-- Of each table, everything but the row is left. -/
theorem rows_dropRow (keyed : t.IsKeyed) (hrow : row ∈ t.rows row.kind) (k : Kind) :
    (t.dropRow row.kind row.id).rows k = (t.rows k).filter (· ≠ row) := by
  have dropped : (t.dropRow row.kind row.id).rows k =
      if k = row.kind then (t.rows k).filter (·.id ≠ row.id) else t.rows k := by
    cases row <;> cases k <;>
      simp [dropRow, rows, Row.kind, removeUser, removeComment, removeTagRow, List.filter_map] <;>
      rfl
  rw [dropped]
  split
  · rename_i same
    subst same
    refine List.filter_congr fun row' hrow' => decide_eq_decide.mpr (not_congr ?_)
    exact ⟨keyed.eq_of_id hrow' hrow, congrArg Row.id⟩
  · rename_i other
    refine (List.filter_eq_self.mpr fun row' hrow' => decide_eq_true ?_).symm
    rintro rfl
    exact other (kind_of_mem hrow').symm

/-- Taking out a row, after the links that join it to others and before its document. -/
theorem cut_of_remove (keyed : t.IsKeyed) (hrow : row ∈ t.rows row.kind) {ls : List Link}
    (linked : ∀ l ∈ t.links, l ∈ ls ↔ (row.isLinked l && t.joins l) = true) (enforces : Bool) :
    let cut := (t.withoutLinks ls).withoutRow enforces row
    Cut enforces row t (if row.kind = .post then cut.unindex Kind.post.table row.id else cut) := by
  intro cut
  have rows : ∀ k, cut.rows k = (t.rows k).filter (· ≠ row) := by
    intro k
    rw [← rows_dropRow keyed hrow]
    cases row <;> cases k <;> rfl
  have links : cut.links = t.links.filter fun l => !(row.isLinked l && (enforces || t.joins l)) := by
    refine (List.filter_filter ..).trans (List.filter_congr fun l hl => ?_)
    rw [Bool.eq_iff_iff]
    simp only [Bool.and_eq_true, Bool.or_eq_true, decide_eq_true_eq, linked l hl,
      Bool.not_eq_true', ← Bool.not_eq_true]
    tauto
  have documents : cut.documents = t.documents := by cases row <;> rfl
  by_cases kind : row.kind = .post
  · rw [if_pos kind]
    refine ⟨fun k => (by cases k <;> rfl : _ = cut.rows k).trans (rows k), links, ?_⟩
    simp only [unindex, documents, kind, decide_true, Bool.true_and]
  · rw [if_neg kind]
    refine ⟨rows, links, documents.trans (List.filter_eq_self.mpr fun d _ => ?_).symm⟩
    rw [decide_eq_false kind]
    rfl

theorem Cut.isKeyed {enforces : Bool} (h : Cut enforces row t t') (keyed : t.IsKeyed) :
    t'.IsKeyed := fun k => by
  rw [h.rows]
  exact (keyed k).sublist (List.filter_sublist.map _)

end Tables

namespace Store

variable {s : Store} {row : Row}

/-- Links are taken out one after another or together. -/
theorem dropLink_withoutLinks (s : Store) (ls : List Link) (l : Link) :
    (s.change (·.withoutLinks ls)).dropLink l = s.change (·.withoutLinks (ls ++ [l])) := by
  have same : (s.tables.links.filter (· ∉ ls)).filter (· ≠ l) =
      s.tables.links.filter (· ∉ ls ++ [l]) := by
    rw [List.filter_filter]
    refine List.filter_congr fun l' _ => ?_
    simp [List.mem_append, not_or, Bool.and_comm]
  exact congrArg (fun links => { s with tables := { s.tables with links := links } }) same

/-- Whether a row may be taken out: with references enforced, a user who is named stays. -/
def mayRemove (s : Store) (row : Row) : Bool :=
  !(s.enforces && row.kind = .user && !isUnnamed s.tables row.id)

/-- What a row is taken out with. -/
theorem remove_eq (s : Store) (row : Row) : s.remove row.kind row.id =
    if s.mayRemove row then .ok (s.change (·.withoutRow s.enforces row))
    else .error .reference := by
  unfold remove mayRemove Tables.withoutRow
  have all : ∀ ls : List Link, (ls.filter fun _ => true) = ls := fun ls => List.filter_true ls
  cases enforces : s.enforces with
  | false =>
    simp only [Bool.not_false, Bool.false_and, if_true, all]
    cases row <;> rfl
  | true =>
    cases row with
    | user u =>
      simp only [Row.kind, Row.isLinked, Bool.true_and, Bool.not_true, Bool.not_false, decide_true,
        Bool.not_not, Bool.false_eq_true, if_false, Bool.and_false, all]
      rfl
    | comment c =>
      simp only [Row.kind, Row.isLinked, Bool.and_false, Bool.not_false, all]
      rfl
    | post p =>
      have names : (s.tables.links.filter fun l => !(true && (Row.post p).isLinked l)) =
          s.tables.links.filter (·.postId ≠ p.id) :=
        List.filter_congr fun l _ => (decide_not ..).symm
      exact congrArg (fun ls => Except.ok { s with
        tables := { s.tables.dropRow .post p.id with links := ls } }) names.symm
    | tag g =>
      have names : (s.tables.links.filter fun l => !(true && (Row.tag g).isLinked l)) =
          s.tables.links.filter (·.tagId ≠ g.id) :=
        List.filter_congr fun l _ => (decide_not ..).symm
      exact congrArg (fun ls => Except.ok { s with
        tables := { s.tables.dropRow .tag g.id with links := ls } }) names.symm

end Store

end Weblog
