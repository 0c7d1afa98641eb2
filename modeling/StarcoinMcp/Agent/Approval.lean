import StarcoinMcp.Agent.EffectOnce

/-! Whose approval it is. Clients, other wallets and the maintenance may do what they like, replies
may be lost, and the agent may be stopped and started again at any moment: a request of the agent's
wallet is approved only on the word of its user. A process of the agent was given this very request,
had its presentation accepted, was told yes to it, and then sent the result that is stored. -/

namespace StarcoinMcp.Starmask

open Coordinator

/-- The record, as some pull returned it: the lease or the presentation may be of any moment. -/
def RequestRecord.DeliveredAs (r : RequestRecord) (request : PulledRequest) : Prop :=
  ∃ r₀ resumed, r₀.identity = r.identity ∧ request = projectPulledRequest r₀ resumed

theorem RequestRecord.DeliveredAs.of_identity {r r' : RequestRecord} {request : PulledRequest}
    (h : r.DeliveredAs request) (hidentity : r'.identity = r.identity) : r'.DeliveredAs request := by
  obtain ⟨r₀, resumed, hsame, hrequest⟩ := h
  exact ⟨r₀, resumed, hsame.trans hidentity.symm, hrequest⟩

section Edits

variable {c : Coordinator} {env : Env} {s : Store} {command : CoordinatorCommand}
  {answer : CoreResult CoordinatorResponse} {r r' : RequestRecord}

/-- A request comes to be approved by a result sent in the name of its wallet, and in no other way. -/
theorem Edit.approves (h : Edit c env s command answer r r') (happroved : r'.status = .approved) :
    (r.status = .approved ∧ (r'.result = r.result ∨ r'.result = none)) ∨
      ∃ m, command = .resolveRequest m ∧ m.requestId = r.requestId ∧
        m.walletInstanceId = r.walletInstanceId ∧ r'.result = some m.result := by
  cases h with
  | claim | present | cancel | expire | release => cases happroved
  | resume _ _ _ hstatus => cases hstatus.symm.trans happroved
  | represent _ _ hstatus => cases hstatus.symm.trans happroved
  | heartbeat _ _ _ _ hstatus => cases hstatus.symm.trans happroved
  | resolve hid hwallet => exact .inr ⟨_, rfl, hid.symm, hwallet.symm, rfl⟩
  | @reject m =>
    obtain ⟨requestId, walletInstanceId, presentationId, reasonCode, message⟩ := m
    cases reasonCode <;> cases happroved
  | evict hstatus => exact .inl ⟨hstatus, .inr rfl⟩

end Edits

namespace Coordinator

variable {c : Coordinator} {s : Store} {id : RequestId} {r' : RequestRecord}

theorem step_approves (hs : s.WellFormed) (x : Step) (hr' : (c.step s x).getRequest id = some r')
    (happroved : r'.status = .approved) : ∃ r, s.getRequest id = some r ∧ r'.identity = r.identity ∧
      ((r.status = .approved ∧ (r'.result = r.result ∨ r'.result = none)) ∨
        ∃ m, x.command = .resolveRequest m ∧ m.requestId = r.requestId ∧
          m.walletInstanceId = r.walletInstanceId ∧ r'.result = some m.result) := by
  have hchange := step_changes (c := c) hs x id
  rw [hr'] at hchange
  generalize hr : s.getRequest id = before at hchange
  cases hchange with
  | same => exact ⟨r', rfl, rfl, .inl ⟨happroved, .inl rfl⟩⟩
  | creation hcreation =>
    rw [hcreation.record] at happroved
    cases happroved
  | edit hedit => exact ⟨_, rfl, hedit.identity_eq, hedit.approves happroved⟩

/-- The record behind a request that a pull delivers, and what the delivery shows of it. -/
theorem delivered_of_pull {env : Env} {w : WalletInstanceId} {result : PullNextRequestResult} {s' : Store}
    {request : PulledRequest}
    (h : c.dispatch env (.pullNextRequest w) s = (.ok (.pullNextRequest result), s'))
    (hrequest : result.request = some request) :
    ∃ r, s.getRequest request.requestId = some r ∧ r.walletInstanceId = w ∧ r.DeliveredAs request := by
  simp only [dispatch, FailState.map_apply] at h
  rcases pullNextRequest_cases c env s w with ⟨e, hrun⟩ | ⟨-, -, hrun⟩ | ⟨r, p, t, -, hfind, -, -, hrun⟩ |
    ⟨r, lease, -, -, hnext, -, -, hrun⟩
  · rw [hrun] at h
    cases h
  · rw [hrun] at h
    cases h
    cases hrequest
  · rw [hrun] at h
    cases h
    cases hrequest
    obtain ⟨hmem, hw, -⟩ := findResumableRequest_spec hfind
    exact ⟨r, Store.mem_requests_iff.mp hmem, hw, r.extended p t (env.now 0), true, rfl, rfl⟩
  · rw [hrun] at h
    cases h
    cases hrequest
    obtain ⟨hmem, hw, -⟩ := nextCreatedRequest_spec hnext
    exact ⟨r, Store.mem_requests_iff.mp hmem, hw, r.claimed lease (env.now 0), false, rfl, rfl⟩

end Coordinator

end StarcoinMcp.Starmask

namespace StarcoinMcp.Agent

open Starmask Prog Coordinator

/-! ## What a result rests on -/

namespace LocalAccountAgent

/-- The process was given the request, and what it was told since then entitles it to the result:
the presentation was accepted, the user said yes to this request, and a signature is that of its
transaction. -/
def Entitled (agent : LocalAccountAgent) (told : Told) (request : PulledRequest)
    (presentationId : PresentationId) (result : RequestResult) : Prop :=
  ∃ before handling,
    told = before ++ ⟨.requestPullNext agent.walletInstanceId, .ok (some request)⟩ :: handling ∧
    agent.Presented request presentationId handling ∧ agent.Fulfils request result handling

/-- A result is sent only by a process that is entitled to it. -/
def Grounded (agent : LocalAccountAgent) (told : Told) (o : AgentOp) : Prop :=
  ∀ params, o = .requestResolve params → ∃ request presentationId result,
    params = agent.resolveParams request.requestId presentationId result ∧
      agent.Entitled told request presentationId result

end LocalAccountAgent

section Grounded

variable {agent : LocalAccountAgent} {request : PulledRequest} {told : Told}

theorem grounded_of_not_reply {o : AgentOp} (ho : isReply o = false) : agent.Grounded told o := by
  rintro params rfl
  cases ho

theorem meets_steady_grounded {ε α : Type} {p : Prog AgentOp AgentOp.Answer ε α}
    (hp : Asks isSteady p) : Meets agent.Grounded (fun _ _ => True) told p := by
  apply hp.meets
  intro t o ho
  apply grounded_of_not_reply
  cases o with
  | requestResolve | requestReject => cases ho
  | _ => rfl

/-- The permissions of the handler are those of the process, counted from the pull. -/
theorem meets_handleRequest_grounded {snapshot : Snapshot} (before : Told) :
    Meets agent.Grounded (fun _ _ => True)
      (before ++ [⟨.requestPullNext agent.walletInstanceId, .ok (some request)⟩])
      (agent.handleRequest request snapshot) := by
  have hcall : Meets (agent.Permitted request) (fun _ _ => True) []
    (agent.handleRequest request snapshot) :=
    meets_handleRequest
  have h := hcall.after (before ++ [⟨.requestPullNext agent.walletInstanceId, .ok (some request)⟩])
  rw [List.append_nil] at h
  apply h.imp _ fun _ _ _ => trivial
  rintro d o ⟨handling, htold, hpermitted⟩ params ho
  obtain ⟨presentationId, result, hparams, hpresented, hfulfils⟩ := hpermitted.resolve params ho
  refine ⟨request, presentationId, result, hparams, before, handling, ?_, hpresented, hfulfils⟩
  rw [htold, List.append_assoc]
  rfl

theorem meets_rounds_grounded (n : ℕ) : ∀ {current : Snapshot} {told : Told},
    Meets agent.Grounded (fun _ _ => True) told (agent.rounds n current) := by
  induction n with
  | zero => exact trivial
  | succ n ih =>
    intro current told
    apply (meets_steady_grounded steady_syncSnapshot).bind _ fun _ _ _ => trivial
    intro d current _
    apply meets_ask_bind (grounded_of_not_reply rfl)
    intro pulled
    match pulled with
    | .error e => exact meets_ask_bind (grounded_of_not_reply rfl) fun _ => ih
    | .ok none => exact meets_ask_bind (grounded_of_not_reply rfl) fun _ => ih
    | .ok (some request) =>
      apply (meets_handleRequest_grounded (told ++ d)).bind _ fun _ _ _ => trivial
      intro d' _ _
      exact (meets_steady_grounded steady_syncSnapshot).bind (fun _ _ _ => ih) fun _ _ _ => trivial

theorem meets_run_grounded (agent : LocalAccountAgent) (n : ℕ) :
    Meets agent.Grounded (fun _ _ => True) [] (agent.run n) :=
  (meets_steady_grounded steady_registerBackend).bind (fun _ _ _ => meets_rounds_grounded n)
    fun _ _ _ => trivial

end Grounded

namespace World

variable {d : Daemon} {agent : LocalAccountAgent}

/-! ## Approvals of a run -/

/-- At some point of the run a process of the agent, entitled to the result, was about to send it. -/
def Sends (d : Daemon) (agent : LocalAccountAgent) (events : List Event) (request : PulledRequest)
    (presentationId : PresentationId) (result : RequestResult) : Prop :=
  ∃ before process, before <+: events ∧ (run d agent before).process = some process ∧
    process.asks =
      some (.requestResolve (agent.resolveParams request.requestId presentationId result)) ∧
    agent.Entitled process.told request presentationId result

/-- The approval of the record is the user's: for what the user was shown is the record, and the
result is the one sent then, unless it has been given up since. -/
def ApprovedByUser (d : Daemon) (agent : LocalAccountAgent) (events : List Event) (r : RequestRecord) :
    Prop :=
  ∃ request presentationId result, r.DeliveredAs request ∧
    Sends d agent events request presentationId result ∧ (r.result = some result ∨ r.result = none)

/-! ### The invariant -/

/-- The request is one of the agent's wallet, as the daemon has it. -/
def Delivered (s : World) (agent : LocalAccountAgent) (request : PulledRequest) : Prop :=
  ∃ r, s.store.getRequest request.requestId = some r ∧ r.walletInstanceId = agent.walletInstanceId ∧
    r.DeliveredAs request

/-- What is asked in a process is asked on good grounds, and what it was given is there. -/
structure Acts (s : World) (agent : LocalAccountAgent) (process : Process) : Prop where
  grounded : Meets agent.Grounded (fun _ _ => True) process.told process.program
  proceeds : Meets agent.Proceeds (fun _ _ => True) process.told process.program
  given : ∀ w request, (⟨.requestPullNext w, .ok (some request)⟩ : Answered AgentOp.Answer) ∈
    process.told → s.Delivered agent request

/-- What a connection carries to the daemon and back. -/
structure Conveys (d : Daemon) (agent : LocalAccountAgent) (events : List Event)
    (connection : Connection) : Prop where
  call : ∃ o : AgentOp, o.call? = some connection.call ∧
    (∀ w, o = .requestPullNext w → w = agent.walletInstanceId) ∧
    ∀ params, o = .requestResolve params → ∃ request presentationId result,
      params = agent.resolveParams request.requestId presentationId result ∧
        (run d agent events).Delivered agent request ∧ Sends d agent events request presentationId result
  delivers : ∀ reply ∈ connection.reply, ∀ request, deliveredBy reply = some request →
    (run d agent events).Delivered agent request

structure Attested (d : Daemon) (agent : LocalAccountAgent) (events : List Event) : Prop where
  wellFormed : (run d agent events).store.WellFormed
  acts : ∀ process ∈ (run d agent events).process, (run d agent events).Acts agent process
  conveys : ∀ connection ∈ (run d agent events).connections, Conveys d agent events connection
  approved : ∀ id r, (run d agent events).store.getRequest id = some r →
    r.walletInstanceId = agent.walletInstanceId → r.status = .approved →
      ApprovedByUser d agent events r

theorem Sends.mono {events events' : List Event} {request : PulledRequest}
    {presentationId : PresentationId} {result : RequestResult}
    (h : Sends d agent events request presentationId result) (hle : events <+: events') :
    Sends d agent events' request presentationId result := by
  obtain ⟨before, process, hbefore, hrest⟩ := h
  exact ⟨before, process, hbefore.trans hle, hrest⟩

theorem ApprovedByUser.kept {events events' : List Event} {r r' : RequestRecord}
    (h : ApprovedByUser d agent events r) (hle : events <+: events')
    (hidentity : r'.identity = r.identity) (hresult : r'.result = r.result ∨ r'.result = none) :
    ApprovedByUser d agent events' r' := by
  obtain ⟨request, presentationId, result, hdelivered, hsends, hstored⟩ := h
  refine ⟨request, presentationId, result, hdelivered.of_identity hidentity, hsends.mono hle, ?_⟩
  rcases hresult with hsame | hnone
  · rw [hsame]
    exact hstored
  · exact .inr hnone

section Step

variable {s s' : World} {request : PulledRequest} {events : List Event} {e : Event}

theorem delivered_step {x : Step} (hs : s.store.WellFormed) (h : s.Delivered agent request)
    (hstore : s'.store = d.coordinator.step s.store x) : s'.Delivered agent request := by
  obtain ⟨r, hr, hwallet, hdelivered⟩ := h
  obtain ⟨r', hr', hidentity⟩ := step_identity (c := d.coordinator) hs hr x
  rw [← hstore] at hr'
  exact ⟨r', hr', (walletInstanceId_of_identity hidentity).trans hwallet,
    hdelivered.of_identity hidentity⟩

theorem delivered_of_store (h : s.Delivered agent request) (hstore : s'.store = s.store) :
    s'.Delivered agent request := by
  unfold Delivered at *
  rw [hstore]
  exact h

theorem Acts.of_delivered {process : Process} (h : s.Acts agent process)
    (hdelivered : ∀ request, s.Delivered agent request → s'.Delivered agent request) :
    s'.Acts agent process :=
  ⟨h.grounded, h.proceeds, fun w request hmem => hdelivered request (h.given w request hmem)⟩

/-- The process goes on after an answer that delivers no request the daemon does not have. -/
theorem Acts.resume {told : Told} {o : AgentOp} {k : o.Answer → AgentProg Unit} {waitsOn : Option ℕ}
    {x : o.Answer} (h : s.Acts agent ⟨told, .op o k, waitsOn⟩)
    (hpulled : ∀ w request, (⟨o, x⟩ : Answered AgentOp.Answer) =
      ⟨.requestPullNext w, .ok (some request)⟩ → s.Delivered agent request)
    (hstore : s'.store = s.store) : s'.Acts agent ⟨told ++ [⟨o, x⟩], k x, none⟩ := by
  refine ⟨h.grounded.2 x, h.proceeds.2 x, ?_⟩
  intro w request hmem
  apply delivered_of_store _ hstore
  rcases List.mem_append.mp hmem with hold | hnew
  · exact h.given w request hold
  · exact hpulled w request (List.mem_singleton.mp hnew).symm

theorem Conveys.later {events' : List Event} {connection : Connection}
    (h : Conveys d agent events connection) (hle : events <+: events')
    (hdelivered : ∀ request, (run d agent events).Delivered agent request →
      (run d agent events').Delivered agent request) : Conveys d agent events' connection := by
  obtain ⟨o, hcall, hpull, hresolve⟩ := h.call
  refine ⟨⟨o, hcall, hpull, ?_⟩, ?_⟩
  · intro params ho
    obtain ⟨request, presentationId, result, hparams, hrequest, hsends⟩ := hresolve params ho
    exact ⟨request, presentationId, result, hparams, hdelivered request hrequest, hsends.mono hle⟩
  · exact fun reply hreply request hrequest =>
      hdelivered request (h.delivers reply hreply request hrequest)

/-- An event that leaves the store alone. -/
theorem Attested.snoc_of_store (h : Attested d agent events)
    (hstore : (run d agent (events ++ [e])).store = (run d agent events).store)
    (hacts : ∀ process ∈ (run d agent (events ++ [e])).process,
      (run d agent (events ++ [e])).Acts agent process)
    (hconveys : ∀ connection ∈ (run d agent (events ++ [e])).connections,
      connection ∈ (run d agent events).connections ∨ Conveys d agent (events ++ [e]) connection) :
    Attested d agent (events ++ [e]) := by
  have hle : events <+: events ++ [e] := List.prefix_append _ _
  refine ⟨?_, hacts, ?_, ?_⟩
  · rw [hstore]
    exact h.wellFormed
  · intro connection hmem
    rcases hconveys connection hmem with hold | hnew
    · exact (h.conveys connection hold).later hle fun _ hrequest => delivered_of_store hrequest hstore
    · exact hnew
  · intro id r hr hwallet hstatus
    rw [hstore] at hr
    exact (h.approved id r hr hwallet hstatus).kept hle rfl (.inl rfl)

/-- An event by which the daemon carries out a command: a result in the name of the agent's wallet is
one that its process sent. -/
theorem Attested.snoc_of_command {x : Step} (h : Attested d agent events)
    (hstore : (run d agent (events ++ [e])).store = d.coordinator.step (run d agent events).store x)
    (hprocess : (run d agent (events ++ [e])).process = (run d agent events).process)
    (hconveys : ∀ connection ∈ (run d agent (events ++ [e])).connections,
      connection ∈ (run d agent events).connections ∨ Conveys d agent (events ++ [e]) connection)
    (hresolve : ∀ m, x.command = .resolveRequest m → m.walletInstanceId = agent.walletInstanceId →
      ∃ request presentationId, m.requestId = request.requestId ∧
        (run d agent events).Delivered agent request ∧
          Sends d agent events request presentationId m.result) :
    Attested d agent (events ++ [e]) := by
  have hle : events <+: events ++ [e] := List.prefix_append _ _
  have hdelivered : ∀ request, (run d agent events).Delivered agent request →
      (run d agent (events ++ [e])).Delivered agent request :=
    fun request hrequest => delivered_step h.wellFormed hrequest hstore
  refine ⟨?_, ?_, ?_, ?_⟩
  · rw [hstore]
    exact step_wellFormed x h.wellFormed
  · intro process hmem
    rw [hprocess] at hmem
    exact (h.acts process hmem).of_delivered hdelivered
  · intro connection hmem
    rcases hconveys connection hmem with hold | hnew
    · exact (h.conveys connection hold).later hle hdelivered
    · exact hnew
  · intro id r' hr' hwallet hstatus
    rw [hstore] at hr'
    obtain ⟨r, hr, hidentity, ⟨happroved, hresult⟩ | ⟨m, hcommand, hid, hw, hresult⟩⟩ :=
      step_approves h.wellFormed x hr' hstatus
    · have hwallet' := (walletInstanceId_of_identity hidentity).symm.trans hwallet
      exact (h.approved id r hr hwallet' happroved).kept hle hidentity hresult
    -- the identity of a record never changes, so what was shown is still what the record says
    · have hwallet' := (walletInstanceId_of_identity hidentity).symm.trans hwallet
      obtain ⟨request, presentationId, hrequest, ⟨r₀, hr₀, -, hshown⟩, hsends⟩ :=
        hresolve m hcommand (hw.trans hwallet')
      rw [← hrequest, hid, Store.getRequest_requestId hr, hr] at hr₀
      cases hr₀
      exact ⟨request, presentationId, m.result, hshown.of_identity hidentity, hsends.mono hle,
        .inl hresult⟩

/-- The daemon handles a call of the agent. -/
theorem attested_handle {i : ℕ} {env : Env} {call : DaemonCall} (h : Attested d agent events)
    (hopen : (run d agent events).connections[i]? = some ⟨call, none⟩)
    (hrun : run d agent (events ++ [.handle i env]) = { run d agent events with
      store := (d.dispatchCall env clientId call (run d agent events).store).2
      connections := (run d agent events).connections.set i
        ⟨call, some (d.dispatchCall env clientId call (run d agent events).store).1⟩ }) :
    Attested d agent (events ++ [.handle i env]) := by
  obtain ⟨o, hcall, hpull, hresolve⟩ := (h.conveys _ (List.mem_of_getElem? hopen)).call
  have hhandled : Handled d env (run d agent events).store o
      (d.dispatchCall env clientId call (run d agent events).store).1
      (d.dispatchCall env clientId call (run d agent events).store).2 := handled_dispatchCall hcall
  have hle : events <+: events ++ [.handle i env] := List.prefix_append _ _
  have hstore : (run d agent (events ++ [.handle i env])).store =
      (d.dispatchCall env clientId call (run d agent events).store).2 := by rw [hrun]
  have hprocess : (run d agent (events ++ [.handle i env])).process = (run d agent events).process := by
    rw [hrun]
  have hdelivered : ∀ request, (run d agent events).Delivered agent request →
      (run d agent (events ++ [.handle i env])).Delivered agent request := by
    intro request hrequest
    rcases hhandled.store with hsame | ⟨command, -, hstep⟩
    · exact delivered_of_store hrequest (hstore.trans hsame)
    · exact delivered_step h.wellFormed hrequest (hstore.trans hstep)
  have hconveys : ∀ connection ∈ (run d agent (events ++ [.handle i env])).connections,
      connection ∈ (run d agent events).connections ∨
        Conveys d agent (events ++ [.handle i env]) connection := by
    intro connection hmem
    rw [hrun] at hmem
    rcases List.mem_or_eq_of_mem_set hmem with hold | rfl
    · exact .inl hold
    · right
      have hcarried := (h.conveys _ (List.mem_of_getElem? hopen)).later hle hdelivered
      refine ⟨hcarried.call, ?_⟩
      rintro reply ⟨⟩ request hrequest
      obtain ⟨w, result, ho, hresult, hdispatch⟩ := hhandled.delivered request hrequest
      obtain ⟨r, hr, hwallet, hshown⟩ := delivered_of_pull hdispatch hresult
      exact hdelivered request ⟨r, hr, hwallet.trans (hpull w ho), hshown⟩
  by_cases hreply : ∃ params, o = .requestResolve params
  · obtain ⟨params, rfl⟩ := hreply
    obtain ⟨request, presentationId, result, rfl, hrequest, hsends⟩ := hresolve params rfl
    cases hcall
    -- only this call can approve a request of the wallet
    apply h.snoc_of_command (hstore.trans (dispatch_resolve agent _ presentationId result)) hprocess
      hconveys
    rintro m hm -
    cases hm
    exact ⟨request, presentationId, rfl, hrequest, hsends⟩
  · rcases hhandled.store with hsame | ⟨command, hcommand, hstep⟩
    · apply h.snoc_of_store (hstore.trans hsame) _ hconveys
      intro process hmem
      rw [hprocess] at hmem
      exact (h.acts process hmem).of_delivered hdelivered
    · apply h.snoc_of_command (hstore.trans hstep) hprocess hconveys
      rintro m hm -
      cases hm
      cases hcommand
      exact absurd ⟨_, rfl⟩ hreply

theorem attested_snoc (h : Attested d agent events) (e : Event) : Attested d agent (events ++ [e]) := by
  have hrun : run d agent (events ++ [e]) = (run d agent events).step d agent e := Trace.run_snoc
  have hmoves := step_moves d agent (run d agent events) e
  rw [← hrun] at hmoves
  have hle : events <+: events ++ [e] := List.prefix_append _ _
  generalize hafter : run d agent (events ++ [e]) = s' at hmoves
  cases hmoves with
  | idle =>
    apply h.snoc_of_store
    · rw [hafter]
    · rw [hafter]
      exact h.acts
    · rw [hafter]
      exact fun _ => .inl
  | start hprocess =>
    apply h.snoc_of_store
    · rw [hafter]
    · rw [hafter]
      rintro process ⟨⟩
      exact ⟨meets_run_grounded agent _, (meets_run_phase agent _).imp_post fun _ _ _ => trivial,
        fun w request hmem => absurd hmem List.not_mem_nil⟩
    · rw [hafter]
      exact fun _ => .inl
  | stop =>
    apply h.snoc_of_store
    · rw [hafter]
    · rw [hafter]
      rintro process ⟨⟩
    · rw [hafter]
      exact fun _ => .inl
  | answer hprocess hlocal =>
    apply h.snoc_of_store
    · rw [hafter]
      rfl
    · rw [hafter]
      rintro process ⟨⟩
      refine (h.acts _ hprocess).resume ?_ rfl
      intro w request hx
      -- a pull is not answered on the spot
      obtain ⟨rfl, -⟩ := Sigma.mk.inj_iff.mp hx
      cases hlocal
    · rw [hafter]
      exact fun _ => .inl
  | @call told o k call hprocess hcall =>
    have hacts := h.acts _ hprocess
    apply h.snoc_of_store
    · rw [hafter]
    · rw [hafter]
      rintro process ⟨⟩
      exact ⟨hacts.grounded, hacts.proceeds, hacts.given⟩
    · rw [hafter]
      intro connection hmem
      rcases List.mem_append.mp hmem with hold | hnew
      · exact .inl hold
      · rw [List.mem_singleton.mp hnew]
        refine .inr ⟨⟨o, hcall, hacts.proceeds.1.pull, ?_⟩, ?_⟩
        · rintro params rfl
          -- what entitles the process to this result is settled now, whatever becomes of it later
          obtain ⟨request, presentationId, result, rfl, hentitled⟩ := hacts.grounded.1 params rfl
          refine ⟨request, presentationId, result, rfl, ?_, ?_⟩
          · obtain ⟨before, handling, htold, -⟩ := hentitled
            rw [hafter]
            apply delivered_of_store (hacts.given agent.walletInstanceId request _) rfl
            rw [htold]
            exact List.mem_append_right _ List.mem_cons_self
          · exact ⟨events, _, hle, hprocess, rfl, hentitled⟩
        · rintro reply ⟨⟩
  | handle hopen => exact attested_handle h hopen hafter
  | receive hprocess hreply hread =>
    apply h.snoc_of_store
    · rw [hafter]
      rfl
    · rw [hafter]
      rintro process ⟨⟩
      refine (h.acts _ hprocess).resume ?_ rfl
      intro w request hx
      cases hx
      exact (h.conveys _ (List.mem_of_getElem? hreply)).delivers _ rfl request
        (deliveredBy_of_read hread)
    · rw [hafter]
      exact fun _ => .inl
  | giveUp hprocess hread =>
    apply h.snoc_of_store
    · rw [hafter]
      rfl
    · rw [hafter]
      rintro process ⟨⟩
      refine (h.acts _ hprocess).resume ?_ rfl
      intro w request hx
      cases hx
      cases deliveredBy_of_read hread
    · rw [hafter]
      exact fun _ => .inl
  | @other x hother =>
    apply h.snoc_of_command (x := x)
    · rw [hafter]
    · rw [hafter]
    · rw [hafter]
      exact fun _ => .inl
    · intro m hm hwallet
      -- nobody else speaks in the name of the wallet
      rw [hm] at hother
      simp only [speaksFor, decide_eq_false_iff_not] at hother
      exact absurd hwallet hother

end Step

theorem attested_run (events : List Event) : Attested d agent events := by
  induction events using List.reverseRecOn with
  | nil =>
    refine ⟨?_, ?_, ?_, ?_⟩
    · intro id r hr
      cases hr
    · rintro process ⟨⟩
    · intro connection hmem
      cases hmem
    · intro id r hr
      cases hr
  | append_singleton events e ih => exact attested_snoc ih e

/-- A request of the agent's wallet is approved only on the word of its user. -/
theorem approved_by_user (d : Daemon) (agent : LocalAccountAgent) (events : List Event) (id : RequestId)
    (r : RequestRecord) (hr : (run d agent events).store.getRequest id = some r)
    (hwallet : r.walletInstanceId = agent.walletInstanceId) (hstatus : r.status = .approved) :
    ApprovedByUser d agent events r :=
  (attested_run events).approved id r hr hwallet hstatus

end World

open Sample in
/-- The account that is created on the user's word. -/
theorem approved_by_user_created : ∃ r,
    (World.run Session.daemon agent (approvedByUser ++ created)).store.getRequest Session.request = some r ∧
      World.ApprovedByUser Session.daemon agent (approvedByUser ++ created) r := by
  have hrecord : ((World.run Session.daemon agent (approvedByUser ++ created)).store.getRequest
      Session.request).map (fun r => (r.walletInstanceId, r.status)) =
        some (agent.walletInstanceId, .approved) := by decide +kernel
  obtain ⟨r, hr, hfields⟩ := Option.map_eq_some_iff.mp hrecord
  exact ⟨r, hr, World.approved_by_user Session.daemon agent (approvedByUser ++ created) Session.request r hr
    (congrArg Prod.fst hfields) (congrArg Prod.snd hfields)⟩

end StarcoinMcp.Agent
