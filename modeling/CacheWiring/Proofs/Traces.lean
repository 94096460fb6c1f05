import CacheWiring.Proofs.Runs

namespace CacheWiring

variable {σ α β : Type}

def Happening.closed? : Happening → Option Nat
  | .asked (.call client .close) _ => some client
  | _ => none

def closings (trace : List Happening) : List Nat := trace.filterMap Happening.closed?

def Happening.request? : Happening → Option Request
  | .asked request _ => some request
  | .said _ => none

def requests (trace : List Happening) : List Request := trace.filterMap Happening.request?

structure Called where
  client : Nat
  call : Call
  reply : Except Fault call.Reply

def Happening.called? : Happening → Option Called
  | .asked (.call client call) reply => some ⟨client, call, reply⟩
  | _ => none

def calls (trace : List Happening) : List Called := trace.filterMap Happening.called?

def Happening.spoken? : Happening → Option Output
  | .said (.log _) => none
  | .said output => some output
  | .asked .. => none

/-- What the user was told, on either channel; the log is not for the user. -/
def spoken (trace : List Happening) : List Output := trace.filterMap Happening.spoken?

structure Connection where
  servers : List NodeEndpoint
  settings : ConnectionSettings
  reply : Except Fault Nat

def Happening.connection? : Happening → Option Connection
  | .asked (.connect servers settings) reply => some ⟨servers, settings, reply⟩
  | _ => none

def connections (trace : List Happening) : List Connection :=
  trace.filterMap Happening.connection?

@[simp] theorem closings_nil : closings [] = [] := rfl

@[simp] theorem closings_append (before after : List Happening) :
    closings (before ++ after) = closings before ++ closings after := List.filterMap_append

@[simp] theorem closings_said (output : Output) (trace : List Happening) :
    closings (.said output :: trace) = closings trace := rfl

@[simp] theorem connections_nil : connections [] = [] := rfl

@[simp] theorem connections_append (before after : List Happening) :
    connections (before ++ after) = connections before ++ connections after :=
  List.filterMap_append

@[simp] theorem connections_said (output : Output) (trace : List Happening) :
    connections (.said output :: trace) = connections trace := rfl

@[simp] theorem requests_nil : requests [] = [] := rfl

@[simp] theorem requests_append (before after : List Happening) :
    requests (before ++ after) = requests before ++ requests after := List.filterMap_append

@[simp] theorem requests_said (output : Output) (trace : List Happening) :
    requests (.said output :: trace) = requests trace := rfl

@[simp] theorem requests_asked (request : Request) (reply : Except Fault request.Reply)
    (trace : List Happening) :
    requests (.asked request reply :: trace) = request :: requests trace := rfl

@[simp] theorem calls_nil : calls [] = [] := rfl

@[simp] theorem calls_append (before after : List Happening) :
    calls (before ++ after) = calls before ++ calls after := List.filterMap_append

@[simp] theorem calls_said (output : Output) (trace : List Happening) :
    calls (.said output :: trace) = calls trace := rfl

@[simp] theorem spoken_nil : spoken [] = [] := rfl

@[simp] theorem spoken_append (before after : List Happening) :
    spoken (before ++ after) = spoken before ++ spoken after := List.filterMap_append

@[simp] theorem spoken_log (record : LogRecord) (trace : List Happening) :
    spoken (.said (.log record) :: trace) = spoken trace := rfl

namespace Program

/-- Whatever the replies, nothing but such happenings occurs. -/
def Only (allowed : Happening → Prop) : Program α → Prop
  | .done _ => True
  | .emit output next => allowed (.said output) ∧ next.Only allowed
  | .ask request next => ∀ reply, allowed (.asked request reply) ∧ (next reply).Only allowed

variable {allowed : Happening → Prop}

theorem Only.pure (a : α) : (pure a : Program α).Only allowed := trivial

theorem Only.fail (fault : Fault) : (Program.fail fault : Program α).Only allowed := trivial

theorem Only.ofExcept (outcome : Except Fault α) : (Program.ofExcept outcome).Only allowed :=
  trivial

theorem Only.log {level : Level} {source : LogSource} {message : Text}
    (ha : allowed (.said (.log ⟨level, source, message⟩))) :
    (Program.log level source message).Only allowed := ⟨ha, trivial⟩

theorem Only.request {r : Request} (hr : ∀ reply, allowed (.asked r reply)) :
    (Program.request r).Only allowed := fun reply => ⟨hr reply, trivial⟩

theorem Only.ite {b : Bool} {p q : Program α} (hp : p.Only allowed) (hq : q.Only allowed) :
    (if b then p else q).Only allowed := by
  cases b
  · exact hq
  · exact hp

theorem Only.bind {p : Program α} {f : α → Program β} (hp : p.Only allowed)
    (hf : ∀ a, (f a).Only allowed) : (p >>= f).Only allowed := by
  change (p.bind f).Only allowed
  induction p with
  | done outcome =>
    cases outcome with
    | ok a => exact hf a
    | error fault => trivial
  | emit output next ih => exact ⟨hp.1, ih hp.2⟩
  | ask request next ih => exact fun reply => ⟨(hp reply).1, ih reply (hp reply).2⟩

theorem Only.attempt {p : Program α} (hp : p.Only allowed) : p.attempt.Only allowed := by
  induction p with
  | done outcome => trivial
  | emit output next ih => exact ⟨hp.1, ih hp.2⟩
  | ask request next ih => exact fun reply => ⟨(hp reply).1, ih reply (hp reply).2⟩

theorem Only.rescue {p : Program α} (hp : p.Only allowed) : p.rescue.Only allowed :=
  hp.attempt.bind fun outcome => .ofExcept (rescued outcome)

theorem Only.each {f : α → Program β} (hf : ∀ a, (f a).Only allowed) (items : List α) :
    (Program.each f items).Only allowed := by
  induction items with
  | nil => trivial
  | cons a rest ih => exact (hf a).bind fun b => ih.bind fun others => Only.pure _

theorem Only.mono {more : Happening → Prop} (hm : ∀ happening, allowed happening → more happening)
    {p : Program α} (hp : p.Only allowed) : p.Only more := by
  induction p with
  | done outcome => trivial
  | emit output next ih => exact ⟨hm _ hp.1, ih hp.2⟩
  | ask request next ih => exact fun reply => ⟨hm _ (hp reply).1, ih reply (hp reply).2⟩

theorem Only.of_mem {p : Program α} (hp : p.Only allowed) (h : Handler σ) {s : σ}
    {happening : Happening} (hm : happening ∈ (p.run h s).trace) : allowed happening := by
  induction p generalizing s with
  | done outcome => simp [run] at hm
  | emit output next ih =>
    rcases List.mem_cons.mp hm with rfl | hm
    · exact hp.1
    · exact ih hp.2 hm
  | ask request next ih =>
    rcases List.mem_cons.mp hm with rfl | hm
    · exact (hp _).1
    · exact ih _ (hp _).2 hm

end Program

/-- Requests, if there are any, are of some kind. -/
def Happening.Within (kind : Request → Prop) : Happening → Prop
  | .asked request _ => kind request
  | .said _ => True

/-- In two worlds that answer a kind of request alike, and are still alike after that, a program
with no other requests runs alike. By induction on the program: each reply is the same. -/
theorem run_alike {τ : Type} {h : Handler σ} {h' : Handler τ} {same : σ → τ → Prop}
    {kind : Request → Prop}
    (hreply : ∀ r s s', kind r → same s s' → (h.answer s r).1 = (h'.answer s' r).1)
    (hstate : ∀ r s s', kind r → same s s' → same (h.answer s r).2 (h'.answer s' r).2)
    {p : Program α} (hp : p.Only (Happening.Within kind)) {s : σ} {s' : τ} (hs : same s s') :
    (p.run h s).outcome = (p.run h' s').outcome ∧ (p.run h s).trace = (p.run h' s').trace := by
  induction p generalizing s s' with
  | done outcome => exact ⟨rfl, rfl⟩
  | emit output next ih =>
    obtain ⟨houtcome, htrace⟩ := ih hp.2 hs
    exact ⟨houtcome, congrArg (Happening.said output :: ·) htrace⟩
  | ask request next ih =>
    have hr : kind request := (hp (h.answer s request).1).1
    have hnext := ih (h.answer s request).1 (hp _).2 (hstate request s s' hr hs)
    simp only [Program.run]
    rw [hreply request s s' hr hs] at hnext ⊢
    obtain ⟨houtcome, htrace⟩ := hnext
    exact ⟨houtcome, congrArg (Happening.asked request _ :: ·) htrace⟩

def Happening.Uncalled (happening : Happening) : Prop := happening.called? = none

/-- The user is told nothing. -/
def Happening.Tacit (happening : Happening) : Prop := happening.spoken? = none

/-- Neither a client is called nor the user told anything. -/
def Happening.Aside (happening : Happening) : Prop := happening.Uncalled ∧ happening.Tacit

/-- Nor is a connection to a cache server opened. -/
def Happening.Offline (happening : Happening) : Prop :=
  happening.connection? = none ∧ happening.Aside

theorem Happening.Offline.log (record : LogRecord) : Happening.Offline (.said (.log record)) :=
  ⟨rfl, rfl, rfl⟩

/-- Requests that go neither to a cache server nor to its client. -/
def Request.Offline : Request → Prop
  | .connect .. | .call .. => False
  | _ => True

namespace Program.Only

theorem offline {r : Request} (hr : r.Offline) : (Program.request r).Only Happening.Offline := by
  refine .request fun reply => ?_
  cases r with
  | connect servers settings => exact hr.elim
  | call client c => exact hr.elim
  | _ => exact ⟨rfl, rfl, rfl⟩

variable {p : Program α} (h : Handler σ) (s : σ)

theorem connections_eq_nil (hp : p.Only Happening.Offline) :
    connections (p.run h s).trace = [] :=
  List.filterMap_eq_nil_iff.mpr fun _ hm => (hp.of_mem h hm).1

theorem aside (hp : p.Only Happening.Offline) : p.Only Happening.Aside := hp.mono fun _ ho => ho.2

theorem uncalled (hp : p.Only Happening.Aside) : p.Only Happening.Uncalled :=
  hp.mono fun _ ha => ha.1

theorem tacit (hp : p.Only Happening.Aside) : p.Only Happening.Tacit := hp.mono fun _ ha => ha.2

theorem calls_eq_nil (hp : p.Only Happening.Uncalled) : calls (p.run h s).trace = [] :=
  List.filterMap_eq_nil_iff.mpr fun _ hm => hp.of_mem h hm

theorem spoken_eq_nil (hp : p.Only Happening.Tacit) : spoken (p.run h s).trace = [] :=
  List.filterMap_eq_nil_iff.mpr fun _ hm => hp.of_mem h hm

end Program.Only

end CacheWiring
