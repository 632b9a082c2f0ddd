/-
  Endpoints and their methods: an endpoint is only found under the method that asks for it.
-/
import Weblog.Service.Endpoint

namespace Weblog.Endpoint

/-- The method that asks for an endpoint. -/
def method : Endpoint → String
  | .register | .login | .createPost | .createComment _ | .createTag => "POST"
  | .updateMe | .updatePost _ | .updateComment _ _ | .updateTag _ => "PUT"
  | .deletePost _ | .deleteComment _ _ | .deleteTag _ => "DELETE"
  | .showMe | .listPosts | .searchPosts | .showPost _ | .listComments _ | .showComment _ _
  | .listTags | .showTag _ | .listTagPosts _ => "GET"

theorem mem_ifWord {word segment : String} {routes : List (String × Endpoint)}
    {a : String × Endpoint} (h : a ∈ ifWord word segment routes) : a ∈ routes := by
  unfold ifWord at h
  split at h
  · exact h
  · cases h

theorem mem_ifThenNil {c : Prop} [Decidable c] {routes : List (String × Endpoint)}
    {a : String × Endpoint} (h : a ∈ if c then [] else routes) : a ∈ routes := by
  split at h
  · cases h
  · exact h

theorem ofSegments_method {ss : List String} {a : String × Endpoint} (h : a ∈ ofSegments ss) :
    a.2.method = a.1 := by
  have listed : ∀ routes : List (String × Endpoint), (∀ a ∈ routes, a.2.method = a.1) →
      a ∈ routes → a.2.method = a.1 := fun _ h => h a
  unfold ofSegments at h
  split at h
  · simp only [List.mem_append] at h
    rcases h with h | h
    · exact listed _ (by decide) (mem_ifWord h)
    · exact listed _ (by decide) (mem_ifWord h)
  · simp only [List.mem_append, or_assoc] at h
    rcases h with h | h | h
    · exact listed _ (by decide) (mem_ifWord h)
    · exact listed _ (by decide) (mem_ifWord h)
    · exact listed _ (by decide) (mem_ifWord h)
  · rcases List.mem_append.mp h with h | h
    · exact listed _ (by decide) (mem_ifWord h)
    · exact listed _ (by simp [method]) (mem_ifThenNil h)
  · exact listed _ (by simp [method]) (mem_ifWord (mem_ifThenNil h))
  · exact listed _ (by simp [method]) (mem_ifThenNil h)
  · exact listed _ (by simp [method]) (mem_ifThenNil h)
  · exact listed _ (by simp [method]) (mem_ifWord (mem_ifThenNil h))
  · cases h

theorem method_of_route {m path : String} {e : Endpoint} (h : route m path = .found e) :
    e.method = m := by
  unfold route at h
  split at h
  · rename_i first e' rest hpath
    split at h
    · rename_i e'' hlookup
      obtain rfl := Routing.found.inj h
      obtain ⟨l₁, l₂, hl, -⟩ := List.lookup_eq_some_iff.mp hlookup
      have hmem : (m, e'') ∈ ofSegments (segments path) := by
        rw [show ofSegments (segments path) = _ from hpath, hl]
        exact List.mem_append_right _ List.mem_cons_self
      exact ofSegments_method hmem
    · cases h
  · split at h
    · split at h <;> cases h
    · cases h
end Weblog.Endpoint
