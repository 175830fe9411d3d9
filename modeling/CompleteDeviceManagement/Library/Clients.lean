import CompleteDeviceManagement.Library.Server

/-!
# Clients of a server that only grows

Many processes on one event loop, all in front of one server. What a client
knows of the server must survive whatever the others do meanwhile; here the
others may only make the server grow. `secured` is the precondition of one
client under that assumption, and `Secured.run` gives it to every task of every
run. `may` says which requests are served, with which fate, in which state.
-/

set_option autoImplicit false

namespace CompleteDeviceManagement.Library

namespace Proc

variable {σ S Req Resp Fate α β : Type}

section Secured

variable (serve : Req → Fate → S → Resp × S) (inv : σ → Prop) (grows : S → S → Prop)
  (may : Req → Fate → S → Prop)

/-- Between any two moments of an exchange the local state may change within
`inv`, and the server may grow; the client itself keeps to the same. -/
def secured (post : α → σ → S → Prop) : Proc σ Req Resp α → σ → S → Prop
  | .ret value, s, t => inv s ∧ post value s t
  | .sync update next, s, t => (next s).secured post (update s) t
  | .await request next, s, t => inv s ∧
      ∀ t', grows t t' → ∀ fate, may request fate t' →
        grows t' (serve request fate t').2 ∧
          ∀ t'', grows (serve request fate t').2 t'' → ∀ s', inv s' →
            (next (serve request fate t').1).secured post s' t''
  | .block _ _, _, _ => False

variable {serve inv grows may}

theorem secured_bind {p : Proc σ Req Resp α} {f : α → Proc σ Req Resp β} {post : β → σ → S → Prop}
    {s : σ} {t : S}
    (h : secured serve inv grows may
      (fun value s t => secured serve inv grows may post (f value) s t) p s t) :
    secured serve inv grows may post (p.bind f) s t := by
  induction p generalizing s t with
  | ret value => exact h.2
  | sync update next ih => exact ih s h
  | await request next ih =>
    refine ⟨h.1, ?_⟩
    intro t' ht' fate hfate
    obtain ⟨grown, rest⟩ := h.2 t' ht' fate hfate
    exact ⟨grown, fun t'' ht'' s' hs' => ih _ (rest t'' ht'' s' hs')⟩
  | block ready next ih => exact h.elim

theorem secured_mono {post post' : α → σ → S → Prop} {p : Proc σ Req Resp α} {s : σ} {t : S}
    (h : secured serve inv grows may post p s t)
    (weaker : ∀ value s t, inv s → post value s t → post' value s t) :
    secured serve inv grows may post' p s t := by
  induction p generalizing s t with
  | ret value => exact ⟨h.1, weaker value s t h.1 h.2⟩
  | sync update next ih => exact ih s h
  | await request next ih =>
    refine ⟨h.1, ?_⟩
    intro t' ht' fate hfate
    obtain ⟨grown, rest⟩ := h.2 t' ht' fate hfate
    exact ⟨grown, fun t'' ht'' s' hs' => ih _ (rest t'' ht'' s' hs')⟩
  | block ready next ih => exact h.elim

/-- A quiet part in front of a server whose answers are those it assumes. -/
theorem Quiet.secured {frame : σ → σ → Prop} {calls : Req → Prop} {answers : Req → Resp → Prop}
    {mid : α → Prop} {p : Proc σ Req Resp α} (h : Quiet frame calls answers mid p)
    (kept : ∀ s s', inv s → frame s s' → inv s')
    (served : ∀ request fate t, calls request → may request fate t →
      answers request (serve request fate t).1 ∧ grows t (serve request fate t).2)
    {s : σ} (hs : inv s) (t : S) :
    Proc.secured serve inv grows may (fun value _ _ => mid value) p s t := by
  induction p generalizing s t with
  | ret value => exact ⟨hs, h⟩
  | sync update next ih => exact ih s (h s).2 (kept s _ hs (h s).1) t
  | await request next ih =>
    refine ⟨hs, ?_⟩
    intro t' _ fate hfate
    obtain ⟨given, grown⟩ := served request fate t' h.1 hfate
    exact ⟨grown, fun t'' _ s' hs' => ih _ (h.2 _ given) hs' t''⟩
  | block ready next ih => exact h.elim

end Secured

end Proc

namespace EventLoop

open Proc

variable {R σ S Req Resp Fate α : Type} (client : R → Proc σ Req Resp α)
  (serve : Req → Fate → S → Resp × S) (inv : σ → Prop) (grows : S → S → Prop)
  (may : Req → Fate → S → Prop) (final : R → α → S → Prop)

/-- The requests that arrive, and the moments at which a request is served. -/
def Admits (asked : R → Prop)
    (c : EventLoop R (σ × S) (Leg Req Resp) Fate α) : Action R Fate → Prop
  | .arrive q => asked q
  | .resume i fate => ∀ t request next, c.tasks[i]? = some t → t.begun ≠ none →
      t.proc = .await (.request request) next → may request fate c.state.2

/-- A task that has begun has returned, or waits for its request to be served,
or for the answer. -/
inductive Waits (q : R) (t : S) : Proc (σ × S) (Leg Req Resp) Fate α → Prop
  | returned (value : α) (done : final q value t) : Waits q t (.ret value)
  | request (request : Req) (next : Resp → Proc σ Req Resp α)
      (rest : ∀ t', grows t t' → ∀ fate, may request fate t' →
        grows t' (serve request fate t').2 ∧
          ∀ t'', grows (serve request fate t').2 t'' → ∀ s', inv s' →
            (next (serve request fate t').1).secured serve inv grows may
              (fun value _ t => final q value t) s' t'') :
      Waits q t ((Proc.await request next).against serve)
  | answer (request : Req) (answer : Resp) (next : Proc σ Req Resp α)
      (rest : ∀ t', grows t t' → ∀ s', inv s' →
        next.secured serve inv grows may (fun value _ t => final q value t) s' t') :
      Waits q t (.await (.answer request answer) fun _ => next.against serve)

variable {client serve inv grows may final}

/-- One section of a client in front of the server. -/
theorem advance_secured {q : R} {p : Proc σ Req Resp α} {s : σ} {t : S}
    (h : p.secured serve inv grows may (fun value _ t => final q value t) s t) :
    ∃ s', inv s' ∧ ((p.against serve).advance (s, t)).2 = (s', t) ∧
      Waits serve inv grows may final q t ((p.against serve).advance (s, t)).1 := by
  induction p generalizing s with
  | ret value => exact ⟨s, h.1, rfl, .returned value h.2⟩
  | sync update next ih => exact ih s h
  | await request next ih => exact ⟨s, h.1, rfl, .request request next h.2⟩
  | block ready next ih => exact h.elim

theorem Waits.grow (trans : ∀ t t' t'', grows t t' → grows t' t'' → grows t t'')
    (stable : ∀ q value t t', final q value t → grows t t' → final q value t') {q : R} {t t' : S}
    {p : Proc (σ × S) (Leg Req Resp) Fate α} (h : Waits serve inv grows may final q t p)
    (grown : grows t t') : Waits serve inv grows may final q t' p := by
  cases h with
  | returned value done => exact .returned value (stable q value t t' done grown)
  | request request next rest =>
    exact .request request next fun t'' h => rest t'' (trans _ _ _ grown h)
  | answer request answer next rest =>
    exact .answer request answer next fun t'' h => rest t'' (trans _ _ _ grown h)

variable (client serve inv grows may final) in
/-- What a family of clients is proved to be. -/
structure Secured (asked : R → Prop) (t₀ : S) : Prop where
  refl : ∀ t, grows t t
  trans : ∀ t t' t'', grows t t' → grows t' t'' → grows t t''
  stable : ∀ q value t t', final q value t → grows t t' → final q value t'
  handles : ∀ q, asked q → ∀ s t, inv s → grows t₀ t →
    (client q).secured serve inv grows may (fun value _ t => final q value t) s t

variable (client serve inv grows may final) in
/-- What holds of every state that a run of such clients reaches. -/
structure LoopSecured (asked : R → Prop) (t₀ : S)
    (c : EventLoop R (σ × S) (Leg Req Resp) Fate α) : Prop where
  state : inv c.state.1
  server : grows t₀ c.state.2
  fresh : ∀ t ∈ c.tasks, asked t.request ∧
    (t.begun = none → t.proc = (client t.request).against serve)
  begun : ∀ t ∈ c.tasks, t.begun ≠ none →
    Waits serve inv grows may final t.request c.state.2 t.proc

variable {asked : R → Prop} {t₀ : S}

/-- One section of a task: the server grows, and the task waits or has returned. -/
theorem Secured.section_ok (hs : Secured client serve inv grows may final asked t₀)
    {c : EventLoop R (σ × S) (Leg Req Resp) Fate α}
    (ok : LoopSecured client serve inv grows may final asked t₀ c)
    {t : Task R (σ × S) (Leg Req Resp) Fate α} (ht : t ∈ c.tasks) {fate : Fate}
    (served : ∀ request next, t.begun ≠ none → t.proc = .await (.request request) next →
      may request fate c.state.2) :
    inv (runTask t fate c.state).2.1 ∧ grows c.state.2 (runTask t fate c.state).2.2 ∧
      Waits serve inv grows may final t.request (runTask t fate c.state).2.2
        (runTask t fate c.state).1 := by
  obtain ⟨hasked, hfresh⟩ := ok.fresh t ht
  cases hb : t.begun with
  | none =>
    have ready := hs.handles t.request hasked c.state.1 c.state.2 ok.state ok.server
    obtain ⟨s', hs', hstate, waits⟩ := advance_secured ready
    have ran : runTask t fate c.state =
        ((client t.request).against serve).advance (c.state.1, c.state.2) := by
      simp only [EventLoop.runTask, hb, hfresh hb]
    rw [ran, hstate]
    exact ⟨hs', hs.refl _, waits⟩
  | some b =>
    have parked := ok.begun t ht (by simp [hb])
    generalize hproc : t.proc = p at parked
    cases parked with
    | returned value done =>
      have ran : runTask t fate c.state = (.ret value, c.state) := by
        simp only [EventLoop.runTask, hb, hproc]
        rfl
      rw [ran]
      exact ⟨ok.state, hs.refl _, .returned value done⟩
    | request request next rest =>
      have allowed : may request fate c.state.2 := served request _ (by simp [hb]) hproc
      obtain ⟨grown, onward⟩ := rest c.state.2 (hs.refl _) fate allowed
      have ran : runTask t fate c.state =
          (.await (.answer request (serve request fate c.state.2).1) fun _ =>
            (next (serve request fate c.state.2).1).against serve,
            (c.state.1, (serve request fate c.state.2).2)) := by
        simp only [EventLoop.runTask, hb, hproc]
        rfl
      rw [ran]
      exact ⟨ok.state, grown, .answer request _ _ onward⟩
    | answer request answer next rest =>
      have ready := rest c.state.2 (hs.refl _) c.state.1 ok.state
      obtain ⟨s', hs', hstate, waits⟩ := advance_secured ready
      have ran : runTask t fate c.state =
          (next.against serve).advance (c.state.1, c.state.2) := by
        simp only [EventLoop.runTask, hb, hproc]
        rfl
      rw [ran, hstate]
      exact ⟨hs', hs.refl _, waits⟩

theorem Secured.step (hs : Secured client serve inv grows may final asked t₀)
    {c : EventLoop R (σ × S) (Leg Req Resp) Fate α}
    (ok : LoopSecured client serve inv grows may final asked t₀ c) {action : Action R Fate}
    (admitted : Admits may asked c action) :
    LoopSecured client serve inv grows may final asked t₀
      (EventLoop.step (fun q => (client q).against serve) c action) := by
  cases action with
  | arrive q =>
    constructor
    · exact ok.state
    · exact ok.server
    · intro t ht
      rcases List.mem_append.mp ht with old | new
      · exact ok.fresh t old
      · obtain rfl := List.mem_singleton.mp new
        exact ⟨admitted, fun _ => rfl⟩
    · intro t ht hb
      rcases List.mem_append.mp ht with old | new
      · exact ok.begun t old hb
      · obtain rfl := List.mem_singleton.mp new
        exact absurd rfl hb
  | resume i fate =>
    cases hi : c.tasks[i]? with
    | none =>
      simp only [EventLoop.step, hi]
      exact ok
    | some t =>
      have ht := List.mem_of_getElem? hi
      obtain ⟨hstate, hgrown, hwaits⟩ := hs.section_ok ok ht
        fun request next hb hproc => admitted t request next hi hb hproc
      simp only [EventLoop.step, hi]
      constructor
      · exact hstate
      · exact hs.trans _ _ _ ok.server hgrown
      · intro t' ht'
        rcases List.mem_or_eq_of_mem_set ht' with old | rfl
        · exact ok.fresh t' old
        · exact ⟨(ok.fresh t ht).1, fun hb => by cases hb⟩
      · intro t' ht' hb
        rcases List.mem_or_eq_of_mem_set ht' with old | rfl
        · exact (ok.begun t' old hb).grow hs.trans hs.stable hgrown
        · exact hwaits

/-- Every state of every run in which requests are served as `may` says. -/
theorem Secured.run (hs : Secured client serve inv grows may final asked t₀) {s : σ} (hinv : inv s)
    {c : EventLoop R (σ × S) (Leg Req Resp) Fate α}
    (h : Reaches (fun q => (client q).against serve) (Admits may asked) (start (s, t₀)) c) :
    LoopSecured client serve inv grows may final asked t₀ c := by
  apply h.invariant
  · constructor
    · exact hinv
    · exact hs.refl t₀
    · intro t ht
      cases ht
    · intro t ht
      cases ht
  · intro c action ok admitted
    exact hs.step ok admitted

end EventLoop

end CompleteDeviceManagement.Library
