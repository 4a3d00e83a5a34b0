import Mathlib.Data.List.Basic
import Mathlib.Algebra.Order.Group.Nat

/- The record of an exchange: servers take requests from connections and respond on
   them, and any server may serve any connection. The responses on a connection are
   in order where the n-th is to the n-th request (`InOrder`). They are as long as
   servers respond to the request they took last and none takes a request from a
   connection with an unanswered one: then that request stays the one that is open
   (`Open.request`, `Open.snoc`, `InOrder.snoc`). -/
namespace Exchange

/-- A server takes a request from a connection, or responds on it. -/
inductive Entry (C S : Type) where
  | request (c : C) (server : S)
  | response (c : C) (server : S)
  deriving DecidableEq, Repr

variable {C S : Type}

def Entry.conn : Entry C S → C
  | .request c _ | .response c _ => c

section Counts
variable [DecidableEq C]

def Entry.isRequest (c : C) : Entry C S → Bool
  | .request c' _ => c' = c
  | .response _ _ => false

def Entry.isResponse (c : C) : Entry C S → Bool
  | .request _ _ => false
  | .response c' _ => c' = c

/-- The requests that were taken from `c`. -/
def requests (c : C) (l : List (Entry C S)) : ℕ := l.countP (Entry.isRequest c)

/-- The responses that were sent on `c`. -/
def responses (c : C) (l : List (Entry C S)) : ℕ := l.countP (Entry.isResponse c)

/-- Every request that was taken from `c` has its response. -/
def Answered (l : List (Entry C S)) (c : C) : Prop := requests c l = responses c l

instance (l : List (Entry C S)) (c : C) : Decidable (Answered l c) :=
  inferInstanceAs (Decidable (_ = _))

/-- The server took its last request from `c`, the requests before it were answered, and
nothing has passed on `c` since. -/
def Open (l : List (Entry C S)) (c : C) (t : S) : Prop :=
  ∃ l₁ l₂, l = l₁ ++ .request c t :: l₂ ∧ Answered l₁ c ∧ (∀ x ∈ l₂, x.conn ≠ c) ∧
    ∀ c', .request c' t ∉ l₂

/-- Every response on `c` is to the last request its server took, which is one of `c`,
and as many requests came before that one as responses before the response. -/
def InOrder (l : List (Entry C S)) (c : C) : Prop :=
  ∀ before after t, l = before ++ .response c t :: after →
    ∃ l₁ l₂, before = l₁ ++ .request c t :: l₂ ∧ (∀ c', .request c' t ∉ l₂) ∧
      requests c l₁ = responses c before

variable {l : List (Entry C S)} {x : Entry C S} {c : C} {t t' : S}

theorem requests_append (l l' : List (Entry C S)) :
    requests c (l ++ l') = requests c l + requests c l' := List.countP_append

theorem responses_append (l l' : List (Entry C S)) :
    responses c (l ++ l') = responses c l + responses c l' := List.countP_append

theorem requests_elsewhere {l' : List (Entry C S)} (h : ∀ x ∈ l', x.conn ≠ c) :
    requests c l' = 0 := by
  apply List.countP_eq_zero.mpr
  intro x hx
  cases x with
  | request c' t' => simpa [Entry.isRequest, Entry.conn] using h _ hx
  | response c' t' => simp [Entry.isRequest]

theorem responses_elsewhere {l' : List (Entry C S)} (h : ∀ x ∈ l', x.conn ≠ c) :
    responses c l' = 0 := by
  apply List.countP_eq_zero.mpr
  intro x hx
  cases x with
  | request c' t' => simp [Entry.isResponse]
  | response c' t' => simpa [Entry.isResponse, Entry.conn] using h _ hx

theorem answered_elsewhere (h : ∀ x ∈ l, x.conn ≠ c) : Answered l c := by
  rw [Answered, requests_elsewhere h, responses_elsewhere h]

/-- Where a request is open, it is the one that is not answered. -/
theorem Open.unanswered (h : Open l c t) : requests c l = responses c l + 1 := by
  obtain ⟨l₁, l₂, rfl, hs, hc, -⟩ := h
  have hreq : requests c (.request c t :: l₂) = 1 := by
    rw [requests, List.countP_cons, ← requests, requests_elsewhere hc]
    simp [Entry.isRequest]
  have hresp : responses c (.request c t :: l₂) = 0 := by
    rw [responses, List.countP_cons, ← responses, responses_elsewhere hc]
    simp [Entry.isResponse]
  rw [requests_append, responses_append, hreq, hresp, hs]

theorem Open.not_answered (h : Open l c t) : ¬ Answered l c := by
  intro hs
  have hu := h.unanswered
  rw [hs] at hu
  omega

theorem Open.mem (h : Open l c t) : .request c t ∈ l := by
  obtain ⟨l₁, l₂, rfl, -⟩ := h
  exact List.mem_append_right _ List.mem_cons_self

/-- One request is open on a connection. -/
theorem Open.unique (h : Open l c t) (h' : Open l c t') : t = t' := by
  obtain ⟨l₁, l₂, rfl, -, hc, -⟩ := h
  obtain ⟨k₁, k₂, heq, -, hk, -⟩ := h'
  rcases List.append_eq_append_iff.mp heq with ⟨m, rfl, hm⟩ | ⟨m, rfl, hm⟩
  · cases m with
    | nil =>
      cases hm
      rfl
    | cons y m =>
      obtain ⟨rfl, rfl⟩ := List.cons.inj hm
      exact absurd rfl (hc (.request c t') (List.mem_append_right _ List.mem_cons_self))
  · cases m with
    | nil =>
      cases hm
      rfl
    | cons y m =>
      obtain ⟨rfl, rfl⟩ := List.cons.inj hm
      exact absurd rfl (hk (.request c t) (List.mem_append_right _ List.mem_cons_self))

/-- A request that is taken from a connection with no other is open. -/
theorem Answered.request (h : Answered l c) : Open (l ++ [.request c t]) c t :=
  ⟨l, [], rfl, h, nofun, fun _ => List.not_mem_nil⟩

/-- A request stays open while its server takes no other and nothing passes on the
connection. -/
theorem Open.snoc (h : Open l c t) (hc : x.conn ≠ c) (ht : ∀ c', x ≠ .request c' t) :
    Open (l ++ [x]) c t := by
  obtain ⟨l₁, l₂, rfl, hs, hl₂, hreq⟩ := h
  refine ⟨l₁, l₂ ++ [x], by simp, hs, ?_, ?_⟩
  · intro y hy
    rcases List.mem_append.mp hy with hy | hy
    · exact hl₂ y hy
    · rw [List.mem_singleton.mp hy]
      exact hc
  · intro c' hy
    rcases List.mem_append.mp hy with hy | hy
    · exact hreq c' hy
    · exact ht c' (List.mem_singleton.mp hy).symm

omit [DecidableEq C] in
/-- The last entry of a list is the one in question, or that one is in the list before. -/
theorem snoc_split {y : Entry C S} {before after : List (Entry C S)}
    (h : l ++ [x] = before ++ y :: after) :
    (before = l ∧ y = x) ∨ ∃ after', l = before ++ y :: after' := by
  rcases List.eq_nil_or_concat after with rfl | ⟨after', z, rfl⟩
  · obtain ⟨hl, hx⟩ := List.append_inj' h rfl
    exact .inl ⟨hl.symm, (List.cons.inj hx).1.symm⟩
  · refine .inr ⟨after', ?_⟩
    rw [List.concat_eq_append, ← List.cons_append, ← List.append_assoc] at h
    exact (List.append_inj' h rfl).1

theorem inOrder_nil : InOrder ([] : List (Entry C S)) c := by
  intro before after t h
  cases before <;> cases h

/-- Responses to open requests keep the order. -/
theorem InOrder.snoc (h : InOrder l c) (hx : ∀ t, x = .response c t → Open l c t) :
    InOrder (l ++ [x]) c := by
  intro before after t hl
  rcases snoc_split hl with ⟨rfl, hresp⟩ | ⟨after', hl'⟩
  · obtain ⟨l₁, l₂, rfl, hs, hc, hreq⟩ := hx t hresp.symm
    refine ⟨l₁, l₂, rfl, hreq, ?_⟩
    calc requests c l₁ = responses c l₁ := hs
      _ = responses c l₁ + responses c (.request c t :: l₂) := by
          rw [responses, responses, List.countP_cons, ← responses, ← responses,
            responses_elsewhere hc]
          simp [Entry.isResponse]
      _ = responses c (l₁ ++ .request c t :: l₂) := (responses_append _ _).symm
  · exact h before after' t hl'

end Counts
end Exchange
