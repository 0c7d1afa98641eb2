import StarcoinMcp.Lib.Trace

/-! An actor: one thread owns a state and serves the commands sent to it, one at a time and in the
order in which they were sent. A command is known by its number in that order, and so is its reply.
What an actor has done is the sequential run of the commands served so far. -/

namespace StarcoinMcp

/-- A mailbox with its owner's state. `served` tells in which surroundings each command was served. -/
structure Mailbox (σ Env Cmd Res : Type) where
  state : σ
  waiting : List Cmd
  served : List (Env × Cmd)
  replies : List Res

namespace Mailbox

variable {σ Env Cmd Res : Type}

def initial (s : σ) : Mailbox σ Env Cmd Res := ⟨s, [], [], []⟩

/-- All commands ever sent, in order. -/
def sent (m : Mailbox σ Env Cmd Res) : List Cmd := m.served.map Prod.snd ++ m.waiting

def send (m : Mailbox σ Env Cmd Res) (command : Cmd) : Mailbox σ Env Cmd Res :=
  { m with waiting := m.waiting ++ [command] }

/-- The owner takes the oldest command and replies to it. -/
def serve (handle : Env → Cmd → σ → Res × σ) (m : Mailbox σ Env Cmd Res) (env : Env) :
    Mailbox σ Env Cmd Res :=
  match m.waiting with
  | [] => m
  | command :: rest =>
    { state := (handle env command m.state).2
      waiting := rest
      served := m.served ++ [(env, command)]
      replies := m.replies ++ [(handle env command m.state).1] }

/-- The state after some commands were served. -/
def after (handle : Env → Cmd → σ → Res × σ) (s : σ) (served : List (Env × Cmd)) : σ :=
  Trace.run (fun s x => (handle x.1 x.2 s).2) s served

/-- The state and the replies are those of the sequential run. -/
structure Faithful (handle : Env → Cmd → σ → Res × σ) (s : σ) (m : Mailbox σ Env Cmd Res) : Prop where
  state : m.state = after handle s m.served
  length : m.replies.length = m.served.length
  replies : ∀ t reply, m.replies[t]? = some reply → ∃ env command, m.served[t]? = some (env, command) ∧
    reply = (handle env command (after handle s (m.served.take t))).1

/-- An entry of a list keeps its number while the list only grows. -/
theorem getElem?_of_prefix {α : Type} {l l' : List α} (h : l <+: l') {t : ℕ} {a : α}
    (ha : l[t]? = some a) : l'[t]? = some a := by
  obtain ⟨rest, rfl⟩ := h
  rw [List.getElem?_append_left (List.getElem?_eq_some_iff.mp ha).1, ha]

section

variable {handle : Env → Cmd → σ → Res × σ} {s : σ} {m : Mailbox σ Env Cmd Res} {command : Cmd} {env : Env}

@[simp] theorem sent_initial : (initial s : Mailbox σ Env Cmd Res).sent = [] := rfl

@[simp] theorem sent_send : (m.send command).sent = m.sent ++ [command] := by
  simp [sent, send]

@[simp] theorem sent_serve : (m.serve handle env).sent = m.sent := by
  unfold serve
  split
  next => rfl
  next command rest hwaiting => simp [sent, hwaiting]

theorem served_prefix_serve : m.served <+: (m.serve handle env).served := by
  unfold serve
  split
  next => exact List.prefix_refl _
  next => exact List.prefix_append _ _

theorem replies_prefix_serve : m.replies <+: (m.serve handle env).replies := by
  unfold serve
  split
  next => exact List.prefix_refl _
  next => exact List.prefix_append _ _

theorem sent_send_of_sent {t : ℕ} {command' : Cmd} (h : m.sent[t]? = some command') :
    (m.send command).sent[t]? = some command' := by
  rw [sent_send]
  exact getElem?_of_prefix (List.prefix_append _ _) h

/-- The owner falls behind by no more than what is sent. -/
theorem length_served_serve (h : m.served.length < m.sent.length) :
    (m.serve handle env).served.length = m.served.length + 1 := by
  unfold serve
  split
  next hwaiting => simp [sent, hwaiting] at h
  next => simp

/-- What was served under a number is what was sent under it. -/
theorem sent_of_served {t : ℕ} (h : m.served[t]? = some (env, command)) : m.sent[t]? = some command := by
  have hlt : t < m.served.length := (List.getElem?_eq_some_iff.mp h).1
  have hmap : (m.served.map Prod.snd)[t]? = some command := by simp [h]
  unfold sent
  rw [List.getElem?_append_left (by simpa using hlt), hmap]

theorem faithful_initial : (initial s : Mailbox σ Env Cmd Res).Faithful handle s := by
  refine ⟨rfl, rfl, ?_⟩
  intro t reply h
  simp [initial] at h

theorem Faithful.send (h : m.Faithful handle s) : (m.send command).Faithful handle s :=
  ⟨h.state, h.length, h.replies⟩

theorem Faithful.serve (h : m.Faithful handle s) : (m.serve handle env).Faithful handle s := by
  unfold Mailbox.serve
  split
  next => exact h
  next command rest hwaiting =>
    refine ⟨?_, by simp [h.length], ?_⟩
    · have hstep : after handle s (m.served ++ [(env, command)]) =
          (handle env command (after handle s m.served)).2 := Trace.run_snoc
      rw [hstep, ← h.state]
    · intro t reply ht
      by_cases hold : t < m.replies.length
      · rw [List.getElem?_append_left hold] at ht
        obtain ⟨env', command', hserved, hreply⟩ := h.replies t reply ht
        have hlt : t < m.served.length := h.length ▸ hold
        refine ⟨env', command', ?_, ?_⟩
        · rw [List.getElem?_append_left hlt, hserved]
        · rw [List.take_append_of_le_length hlt.le, hreply]
      · -- the newest reply belongs to the command that was served last
        have hlast : t = m.replies.length := by
          have hbound := (List.getElem?_eq_some_iff.mp ht).1
          rw [List.length_append, List.length_singleton] at hbound
          omega
        subst hlast
        rw [List.getElem?_concat_length] at ht
        refine ⟨env, command, ?_, ?_⟩
        · rw [h.length, List.getElem?_concat_length]
        · rw [h.length, List.take_left, ← h.state]
          exact (Option.some.inj ht).symm

end

end Mailbox

end StarcoinMcp
