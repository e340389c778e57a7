import HomeIoControl.MachineRuns
import Mathlib.Data.List.Basic

/-!
# Programs that consult an environment and leave a trace

A program asks an environment of any kind, which answers and changes as it likes, and writes
events to a trace. `Traces` says what a program can write with a given result, whatever the
environment does; `Triple` relates the environment before and after; `Returns` speaks of the
result alone. An observer is a machine that reads the events and decides of each whether it is in
order, by what it has seen so far.
-/

namespace HomeIoControl.TracedPrograms

universe u v w

/-- The environment, and the events written so far. -/
structure World (σ ε : Type u) where
  env : σ
  log : List ε

/-- A program over an environment `σ` that writes events `ε`. -/
abbrev Prog (σ ε α : Type u) := StateM (World σ ε) α

variable {σ ε α β : Type u}

/-- Consult the environment. -/
def ask (f : σ → α × σ) : Prog σ ε α := fun w => ((f w.env).1, ⟨(f w.env).2, w.log⟩)

/-- Write an event. -/
def tell (e : ε) : Prog σ ε PUnit := fun w => (⟨⟩, ⟨w.env, w.log ++ [e]⟩)

/-- The program with its events written as others. -/
def Prog.relabel {ε' : Type u} (f : ε → ε') (p : Prog σ ε α) : Prog σ ε' α := fun w =>
  ((p ⟨w.env, []⟩).1, ⟨(p ⟨w.env, []⟩).2.env, w.log ++ (p ⟨w.env, []⟩).2.log.map f⟩)

theorem bind_apply (p : Prog σ ε α) (f : α → Prog σ ε β) (w : World σ ε) :
    (p >>= f) w = f (p w).1 (p w).2 := rfl

/-- In every environment the program appends events that fit its result. -/
def Traces (p : Prog σ ε α) (post : α → List ε → Prop) : Prop :=
  ∀ w, ∃ es, (p w).2.log = w.log ++ es ∧ post (p w).1 es

namespace Traces

variable {p : Prog σ ε α} {post post' : α → List ε → Prop}

theorem weaken (h : Traces p post) (imp : ∀ a es, post a es → post' a es) : Traces p post' := by
  intro w
  obtain ⟨es, hlog, hpost⟩ := h w
  exact ⟨es, hlog, imp _ _ hpost⟩

theorem pure {a : α} (h : post a []) : Traces (pure a : Prog σ ε α) post :=
  fun _ => ⟨[], (List.append_nil _).symm, h⟩

theorem bind {f : α → Prog σ ε β} {post' : β → List ε → Prop} (hp : Traces p post)
    (hf : ∀ a es, post a es → Traces (f a) fun b fs => post' b (es ++ fs)) :
    Traces (p >>= f) post' := by
  intro w
  obtain ⟨es, hlog, hpost⟩ := hp w
  obtain ⟨fs, hlog', hpost'⟩ := hf _ es hpost (p w).2
  refine ⟨es ++ fs, ?_, hpost'⟩
  have happend : (f (p w).1 (p w).2).2.log = (w.log ++ es) ++ fs := by rw [hlog', hlog]
  exact happend.trans (List.append_assoc _ _ _)

/-- A program that writes nothing leaves the trace to the rest. -/
theorem silent_bind {f : α → Prog σ ε β} {post' : β → List ε → Prop}
    (hp : Traces p fun _ es => es = []) (hf : ∀ a, Traces (f a) post') :
    Traces (p >>= f) post' := by
  apply hp.bind
  rintro a _ rfl
  exact hf a

/-- Consulting the environment writes nothing and may answer anything. -/
theorem ask_bind {g : σ → α × σ} {f : α → Prog σ ε β} {post' : β → List ε → Prop}
    (hf : ∀ a, Traces (f a) post') : Traces (ask g >>= f) post' :=
  fun w => hf (g w.env).1 ⟨(g w.env).2, w.log⟩

theorem ask {g : σ → α × σ} (h : ∀ a, post a []) : Traces (ask g : Prog σ ε α) post :=
  fun _ => ⟨[], (List.append_nil _).symm, h _⟩

theorem tell_bind {e : ε} {f : PUnit → Prog σ ε β} {post' : β → List ε → Prop}
    (hf : Traces (f ⟨⟩) fun b fs => post' b (e :: fs)) :
    Traces (TracedPrograms.tell e >>= f) post' := by
  intro w
  obtain ⟨fs, hlog, hpost⟩ := hf ⟨w.env, w.log ++ [e]⟩
  exact ⟨e :: fs, hlog.trans (List.append_assoc _ _ _), hpost⟩

theorem relabel {ε' : Type u} (f : ε → ε') (h : Traces p post) :
    Traces (p.relabel f) fun a es => ∃ fs, es = fs.map f ∧ post a fs := by
  intro w
  obtain ⟨es, hlog, hpost⟩ := h ⟨w.env, []⟩
  refine ⟨es.map f, ?_, es, rfl, hpost⟩
  have hlog' : (p ⟨w.env, []⟩).2.log = es := hlog
  rw [Prog.relabel, hlog']

theorem ite {c : Prop} [Decidable c] {q : Prog σ ε α} (hp : c → Traces p post)
    (hq : ¬ c → Traces q post) : Traces (if c then p else q) post := by
  by_cases hc : c
  · rw [if_pos hc]
    exact hp hc
  · rw [if_neg hc]
    exact hq hc

end Traces

/-- Every event that the program writes is of the kind. -/
def Writes (kind : ε → Prop) (p : Prog σ ε α) : Prop := Traces p fun _ es => ∀ e ∈ es, kind e

namespace Writes

variable {kind : ε → Prop} {p : Prog σ ε α}

theorem pure (a : α) : Writes kind (pure a : Prog σ ε α) := Traces.pure (List.forall_mem_nil _)

theorem bind {f : α → Prog σ ε β} (hp : Writes kind p) (hf : ∀ a, Writes kind (f a)) :
    Writes kind (p >>= f) := by
  apply Traces.bind hp
  intro a es hes
  apply (hf a).weaken
  intro b fs hfs
  exact List.forall_mem_append.mpr ⟨hes, hfs⟩

theorem ask (g : σ → α × σ) : Writes kind (ask g : Prog σ ε α) :=
  Traces.ask fun _ => List.forall_mem_nil _

theorem ask_bind {g : σ → α × σ} {f : α → Prog σ ε β} (hf : ∀ a, Writes kind (f a)) :
    Writes kind (TracedPrograms.ask g >>= f) :=
  Traces.ask_bind hf

theorem ite {c : Prop} [Decidable c] {q : Prog σ ε α} (hp : Writes kind p)
    (hq : Writes kind q) : Writes kind (if c then p else q) :=
  Traces.ite (fun _ => hp) fun _ => hq

end Writes

/-- Each event of the trace fits what is written before and after it. -/
def AtEach (fits : List ε → ε → List ε → Prop) (es : List ε) : Prop :=
  ∀ before e after, es = before ++ e :: after → fits before e after

namespace AtEach

variable {fits fits' : List ε → ε → List ε → Prop} {es fs : List ε}

theorem imp (h : AtEach fits es)
    (imp : ∀ before e after, fits before e after → fits' before e after) : AtEach fits' es :=
  fun before e after hes => imp before e after (h before e after hes)

/-- What each event fits decides whether it fits two other conditions, and the same of both. -/
theorem congr {decides : List ε → ε → List ε → Prop} (h : AtEach decides es)
    (agree : ∀ before e after, decides before e after →
      (fits before e after ↔ fits' before e after)) :
    AtEach fits es ↔ AtEach fits' es := by
  constructor
  · intro hes before e after hsplit
    exact (agree _ _ _ (h before e after hsplit)).mp (hes before e after hsplit)
  · intro hes before e after hsplit
    exact (agree _ _ _ (h before e after hsplit)).mpr (hes before e after hsplit)

theorem getElem (h : AtEach fits es) (n : ℕ) (hn : n < es.length) :
    fits (es.take n) es[n] (es.drop (n + 1)) := by
  apply h
  rw [List.getElem_cons_drop, List.take_append_drop]

theorem of_forall (h : ∀ e ∈ es, ∀ before after, fits before e after) : AtEach fits es := by
  rintro before e after rfl
  exact h e (List.mem_append_right _ List.mem_cons_self) before after

theorem nil : AtEach fits [] := of_forall (List.forall_mem_nil _)

theorem singleton {e : ε} (h : fits [] e []) : AtEach fits [e] := by
  intro before e' after hes
  rcases List.append_eq_singleton_iff.mp hes.symm with ⟨rfl, hcons⟩ | ⟨-, hcons⟩
  · obtain ⟨rfl, rfl⟩ := List.cons.inj hcons
    exact h
  · exact absurd hcons (List.cons_ne_nil _ _)

theorem append (hes : AtEach (fun before e after => fits before e (after ++ fs)) es)
    (hfs : AtEach (fun before e after => fits (es ++ before) e after) fs) :
    AtEach fits (es ++ fs) := by
  intro before e after hsplit
  rcases List.append_eq_append_iff.mp hsplit with ⟨mid, rfl, hmid⟩ | ⟨mid, hmid, hafter⟩
  · exact hfs mid e after hmid
  · -- the event is the first of what remains of the front, or of the back
    cases mid with
    | nil =>
      rw [List.append_nil] at hmid
      subst hmid
      simpa using hfs [] e after hafter.symm
    | cons first mid =>
      obtain ⟨rfl, rfl⟩ := List.cons.inj hafter
      exact hes before e mid hmid

theorem cons {e : ε} (he : fits [] e es)
    (hes : AtEach (fun before f after => fits (e :: before) f after) es) :
    AtEach fits (e :: es) :=
  append (singleton he) hes

/-- One event more, where no event looks at what comes after it. -/
theorem concat {fits : List ε → ε → Prop} {e : ε}
    (hes : AtEach (fun before e _ => fits before e) es) (he : fits es e) :
    AtEach (fun before e _ => fits before e) (es ++ [e]) := by
  refine append hes (singleton ?_)
  rwa [List.append_nil]

end AtEach

variable {σ' α' β' : Type u}

/-- Seen through the two maps, the program over the richer environment is the other one. -/
def Refines (see : σ' → σ) (result : α' → α) (p' : Prog σ' ε α') (p : Prog σ ε α) : Prop :=
  ∀ w, p ⟨see w.env, w.log⟩ = (result (p' w).1, ⟨see (p' w).2.env, (p' w).2.log⟩)

namespace Refines

variable {see : σ' → σ} {result : α' → α} {p' : Prog σ' ε α'} {p : Prog σ ε α}

theorem pure (a : α') :
    Refines see result (pure a : Prog σ' ε α') (pure (result a) : Prog σ ε α) :=
  fun _ => rfl

theorem bind {result' : β' → β} {f' : α' → Prog σ' ε β'} {f : α → Prog σ ε β}
    (hp : Refines see result p' p) (hf : ∀ a, Refines see result' (f' a) (f (result a))) :
    Refines see result' (p' >>= f') (p >>= f) := by
  intro w
  have hbind : (p >>= f) ⟨see w.env, w.log⟩ =
      f (p ⟨see w.env, w.log⟩).1 (p ⟨see w.env, w.log⟩).2 := rfl
  rw [hbind, hp w]
  exact hf (p' w).1 (p' w).2

theorem ask {g' : σ' → α' × σ'} {g : σ → α × σ}
    (h : ∀ s, g (see s) = (result (g' s).1, see (g' s).2)) :
    Refines see result (ask g' : Prog σ' ε α') (ask g : Prog σ ε α) := by
  intro w
  have hask : TracedPrograms.ask g ⟨see w.env, w.log⟩ =
      ((g (see w.env)).1, ⟨(g (see w.env)).2, w.log⟩) := rfl
  rw [hask, h w.env]
  rfl

/-- Both environments give the same answer. -/
theorem ask_same {g' : σ' → α × σ'} {g : σ → α × σ}
    (h : ∀ s, g (see s) = ((g' s).1, see (g' s).2)) :
    Refines see id (TracedPrograms.ask g' : Prog σ' ε α) (TracedPrograms.ask g : Prog σ ε α) :=
  Refines.ask h

theorem tell (e : ε) :
    Refines see id (TracedPrograms.tell e : Prog σ' ε PUnit) (TracedPrograms.tell e) :=
  fun _ => rfl

theorem ite {c : Prop} [Decidable c] {q' : Prog σ' ε α'} {q : Prog σ ε α}
    (hp : Refines see result p' p) (hq : Refines see result q' q) :
    Refines see result (if c then p' else q') (if c then p else q) := by
  split
  · exact hp
  · exact hq

end Refines

/-- From an environment with the precondition, the program ends in one with the
postcondition. -/
def Triple (pre : σ → Prop) (p : Prog σ ε α) (post : α → σ → Prop) : Prop :=
  ∀ w, pre w.env → post (p w).1 (p w).2.env

namespace Triple

variable {pre : σ → Prop} {p : Prog σ ε α} {post : α → σ → Prop}

theorem weaken {pre' : σ → Prop} {post' : α → σ → Prop} (h : Triple pre p post)
    (strengthen : ∀ s, pre' s → pre s) (imp : ∀ a s, post a s → post' a s) :
    Triple pre' p post' :=
  fun w hw => imp _ _ (h w (strengthen _ hw))

/-- A precondition may say more than is needed. -/
theorem forget {more : σ → Prop} (h : Triple pre p post) :
    Triple (fun s => pre s ∧ more s) p post :=
  h.weaken (fun _ h => h.1) fun _ _ h => h

/-- A part of the precondition that does not speak of the environment is a hypothesis. -/
theorem given {φ : Prop} (h : φ → Triple pre p post) : Triple (fun s => pre s ∧ φ) p post :=
  fun w hw => h hw.2 w hw.1

theorem pure {a : α} (h : ∀ s, pre s → post a s) : Triple pre (pure a : Prog σ ε α) post :=
  fun w hw => h w.env hw

theorem bind {f : α → Prog σ ε β} {post' : β → σ → Prop} (hp : Triple pre p post)
    (hf : ∀ a, Triple (post a) (f a) post') : Triple pre (p >>= f) post' :=
  fun w hw => hf _ (p w).2 (hp w hw)

theorem ask {g : σ → α × σ} (h : ∀ s, pre s → post (g s).1 (g s).2) :
    Triple pre (ask g : Prog σ ε α) post :=
  fun w hw => h w.env hw

/-- Consulting the environment keeps what its answer does not change. -/
theorem ask_keeps {g : σ → α × σ} (h : ∀ s, pre s → pre (g s).2) :
    Triple pre (TracedPrograms.ask g : Prog σ ε α) fun _ => pre :=
  ask h

theorem tell_keeps {e : ε} : Triple pre (tell e : Prog σ ε PUnit) fun _ => pre :=
  fun _ hw => hw

theorem ite {c : Prop} [Decidable c] {q : Prog σ ε α} (hp : c → Triple pre p post)
    (hq : ¬ c → Triple pre q post) : Triple pre (if c then p else q) post := by
  by_cases hc : c
  · rw [if_pos hc]
    exact hp hc
  · rw [if_neg hc]
    exact hq hc

end Triple

/-- In every environment the result has the property. -/
def Returns (p : Prog σ ε α) (post : α → Prop) : Prop := ∀ w, post (p w).1

namespace Returns

variable {p : Prog σ ε α} {post post' : α → Prop}

theorem weaken (h : Returns p post) (imp : ∀ a, post a → post' a) : Returns p post' :=
  fun w => imp _ (h w)

theorem pure {a : α} (h : post a) : Returns (pure a : Prog σ ε α) post := fun _ => h

theorem bind {f : α → Prog σ ε β} {post' : β → Prop} (hp : Returns p post)
    (hf : ∀ a, post a → Returns (f a) post') : Returns (p >>= f) post' :=
  fun w => hf _ (hp w) (p w).2

/-- Nothing needs to be known of a result to go on from it. -/
theorem skip {f : α → Prog σ ε β} {post' : β → Prop} (hf : ∀ a, Returns (f a) post') :
    Returns (p >>= f) post' :=
  fun w => hf _ (p w).2

theorem ite {c : Prop} [Decidable c] {q : Prog σ ε α} (hp : c → Returns p post)
    (hq : ¬ c → Returns q post) : Returns (if c then p else q) post := by
  by_cases hc : c
  · rw [if_pos hc]
    exact hp hc
  · rw [if_neg hc]
    exact hq hc

end Returns

/-- From a world with the invariant the program ends in one, and the result has the property. -/
def Keeps (inv : World σ ε → Prop) (p : Prog σ ε α) (post : α → Prop) : Prop :=
  ∀ w, inv w → post (p w).1 ∧ inv (p w).2

namespace Keeps

variable {inv : World σ ε → Prop} {p : Prog σ ε α} {post post' : α → Prop}

theorem weaken (h : Keeps inv p post) (imp : ∀ a, post a → post' a) : Keeps inv p post' :=
  fun w hw => ⟨imp _ (h w hw).1, (h w hw).2⟩

theorem pure {a : α} (h : post a) : Keeps inv (pure a : Prog σ ε α) post := fun _ hw => ⟨h, hw⟩

theorem bind {f : α → Prog σ ε β} {post' : β → Prop} (hp : Keeps inv p post)
    (hf : ∀ a, post a → Keeps inv (f a) post') : Keeps inv (p >>= f) post' :=
  fun w hw => hf _ (hp w hw).1 (p w).2 (hp w hw).2

/-- Nothing needs to be known of a result to go on from it. -/
theorem skip {f : α → Prog σ ε β} {post' : β → Prop} (hp : Keeps inv p fun _ => True)
    (hf : ∀ a, Keeps inv (f a) post') : Keeps inv (p >>= f) post' :=
  hp.bind fun a _ => hf a

theorem ask {g : σ → α × σ} (h : ∀ w, inv w → inv ⟨(g w.env).2, w.log⟩) :
    Keeps inv (TracedPrograms.ask g : Prog σ ε α) fun _ => True :=
  fun w hw => ⟨trivial, h w hw⟩

theorem returns (h : Keeps (fun _ => True) p post) : Returns p post := fun w => (h w trivial).1

theorem of_returns (h : Returns p post) : Keeps (fun _ => True) p post :=
  fun w _ => ⟨h w, trivial⟩

theorem ite {c : Prop} [Decidable c] {q : Prog σ ε α} (hp : c → Keeps inv p post)
    (hq : ¬ c → Keeps inv q post) : Keeps inv (if c then p else q) post := by
  by_cases hc : c
  · rw [if_pos hc]
    exact hp hc
  · rw [if_neg hc]
    exact hq hc

/-- A program that keeps every trace as it is writes nothing. -/
theorem traces (h : ∀ log, Keeps (fun w => w.log = log) p post) :
    Traces p fun a es => post a ∧ es = [] := by
  intro w
  obtain ⟨ha, hlog⟩ := h w.log w rfl
  exact ⟨[], hlog.trans (List.append_nil _).symm, ha, rfl⟩

end Keeps

/-- A property of the environment and the trace together holds again when the program ends. -/
def Preserves (inv : World σ ε → Prop) (p : Prog σ ε α) : Prop := ∀ w, inv w → inv (p w).2

namespace Preserves

variable {inv : World σ ε → Prop} {p : Prog σ ε α}

theorem pure (a : α) : Preserves inv (pure a : Prog σ ε α) := fun _ hw => hw

theorem bind {f : α → Prog σ ε β} (hp : Preserves inv p) (hf : ∀ a, Preserves inv (f a)) :
    Preserves inv (p >>= f) :=
  fun w hw => hf _ (p w).2 (hp w hw)

theorem ask {g : σ → α × σ} (h : ∀ w, inv w → inv ⟨(g w.env).2, w.log⟩) :
    Preserves inv (TracedPrograms.ask g : Prog σ ε α) := h

theorem tell {e : ε} (h : ∀ w, inv w → inv ⟨w.env, w.log ++ [e]⟩) :
    Preserves inv (TracedPrograms.tell e : Prog σ ε PUnit) := h

theorem ite {c : Prop} [Decidable c] {q : Prog σ ε α} (hp : Preserves inv p)
    (hq : Preserves inv q) : Preserves inv (if c then p else q) := by
  split
  · exact hp
  · exact hq

end Preserves

section

open MachineRuns

variable {κ : Type v} {ω : Type w}

/-- In every environment each event of the program is in order, and the result fits what is known
afterwards. -/
def Observed (m : Machine κ ε ω) (ok : κ → ε → Prop) (known : κ) (p : Prog σ ε α)
    (post : α → κ → Prop) : Prop :=
  Traces p fun a es => m.Along ok known es ∧ post a (m.run known es)

namespace Observed

variable {m : Machine κ ε ω} {ok : κ → ε → Prop} {known : κ} {p : Prog σ ε α}
  {post post' : α → κ → Prop}

theorem weaken (h : Observed m ok known p post) (imp : ∀ a known, post a known → post' a known) :
    Observed m ok known p post' :=
  Traces.weaken h fun _ _ hes => ⟨hes.1, imp _ _ hes.2⟩

theorem pure {a : α} (h : post a known) : Observed m ok known (pure a : Prog σ ε α) post :=
  Traces.pure ⟨trivial, h⟩

theorem bind {f : α → Prog σ ε β} {post' : β → κ → Prop} (hp : Observed m ok known p post)
    (hf : ∀ a known, post a known → Observed m ok known (f a) post') :
    Observed m ok known (p >>= f) post' := by
  apply Traces.bind hp
  intro a es hes
  apply Traces.weaken (hf a _ hes.2)
  intro b fs hfs
  rw [Machine.along_append, Machine.run_append]
  exact ⟨⟨hes.1, hfs.1⟩, hfs.2⟩

theorem ask {g : σ → α × σ} (h : ∀ a, post a known) :
    Observed m ok known (ask g : Prog σ ε α) post :=
  Traces.ask fun a => ⟨trivial, h a⟩

theorem ask_bind {g : σ → α × σ} {f : α → Prog σ ε β} {post' : β → κ → Prop}
    (hf : ∀ a, Observed m ok known (f a) post') :
    Observed m ok known (TracedPrograms.ask g >>= f) post' :=
  Traces.ask_bind hf

theorem tell_bind {e : ε} {f : PUnit → Prog σ ε β} {post' : β → κ → Prop} (he : ok known e)
    (hf : Observed m ok (m.step known e).1 (f ⟨⟩) post') :
    Observed m ok known (tell e >>= f) post' := by
  apply Traces.tell_bind
  apply Traces.weaken hf
  intro b fs hfs
  exact ⟨⟨he, hfs.1⟩, hfs.2⟩

theorem ite {c : Prop} [Decidable c] {q : Prog σ ε α} (hp : c → Observed m ok known p post)
    (hq : ¬ c → Observed m ok known q post) :
    Observed m ok known (if c then p else q) post :=
  Traces.ite hp hq

end Observed

end

end HomeIoControl.TracedPrograms
