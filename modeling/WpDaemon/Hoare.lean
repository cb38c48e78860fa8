import WpDaemon.World

/-!
# Hoare triples over commands

`Triple pre m post onError` says what a command does from every world satisfying `pre`:
a return satisfies `post` and a thrown exception, `std::terminate` included, leaves a
world satisfying `onError`. The rules follow the constructs the commands are written
with, so a command's triple is assembled along its `do` block: `bind`, `if`, `get`,
`modify`, `modifyGet`, `throw`, `catch`, and the join points the `do` notation makes of an
`if` without `else`.
-/

namespace Wpmd

/-- From a world satisfying `pre`, `m` returns into `post` or throws into `onError`. -/
def Triple {α : Type} (pre : World → Prop) (m : Cmd α) (post : α → World → Prop)
    (onError : Exception → World → Prop) : Prop :=
  ∀ w, pre w → match m.run w with
    | .ok a w' => post a w'
    | .error e w' => onError e w'

namespace Triple

variable {α β : Type} {P : World → Prop} {Q : α → World → Prop} {E : Exception → World → Prop}

theorem pure {a : α} (h : ∀ w, P w → Q a w) : Triple P (pure a) Q E := h

theorem bind {m : Cmd α} {f : α → Cmd β} {R : α → World → Prop} {Q : β → World → Prop}
    (hm : Triple P m R E) (hf : ∀ a, Triple (R a) (f a) Q E) : Triple P (m >>= f) Q E := by
  intro w hw
  have hr := hm w hw
  rw [Cmd.run_bind]
  rcases h : m.run w with ⟨a, w'⟩ | ⟨e, w'⟩ <;> rw [h] at hr
  · exact hf a w' hr
  · exact hr

theorem conseq {m : Cmd α} {P' : World → Prop} {Q' : α → World → Prop}
    {E' : Exception → World → Prop} (hm : Triple P m Q E) (hP : ∀ w, P' w → P w)
    (hQ : ∀ a w, Q a w → Q' a w) (hE : ∀ e w, E e w → E' e w) : Triple P' m Q' E' := by
  intro w hw
  have hr := hm w (hP w hw)
  rcases h : m.run w with ⟨a, w'⟩ | ⟨e, w'⟩ <;> rw [h] at hr
  · exact hQ a w' hr
  · exact hE e w' hr

theorem ite {c : Prop} [Decidable c] {t e : Cmd α} (ht : c → Triple P t Q E)
    (he : ¬c → Triple P e Q E) : Triple P (if c then t else e) Q E := by
  split
  · exact ht ‹c›
  · exact he ‹¬c›

/-- A block that starts by reading the world runs from the world it read. -/
theorem get_bind {f : World → Cmd β} {Q : β → World → Prop} (h : ∀ w, P w → Triple P (f w) Q E) :
    Triple P (get >>= f) Q E :=
  fun w hw => h w hw w hw

theorem modify {f : World → World} {Q : Unit → World → Prop} (h : ∀ w, P w → Q () (f w)) :
    Triple P (modify f) Q E :=
  h

theorem modifyGet {f : World → α × World} (h : ∀ w, P w → Q (f w).1 (f w).2) :
    Triple P (modifyGet f) Q E :=
  h

theorem throw {e : Exception} (h : ∀ w, P w → E e w) : Triple P (MonadExcept.throw e) Q E := h

theorem discard {m : Cmd α} {R : World → Prop} (h : Triple P m (fun _ => R) E) :
    Triple P (discard m) (fun _ => R) E := by
  intro w hw
  have hr := h w hw
  rw [Cmd.run_discard]
  rcases hm : m.run w with ⟨a, w'⟩ | ⟨e, w'⟩ <;> rw [hm] at hr
  · exact hr
  · exact hr

/-- `catch (const std::exception&)`: the handler runs from where the body threw a standard
exception; `std::terminate` passes through. -/
theorem catchStd {body : Cmd α} {handler : Bytes → Cmd α} {E' : Exception → World → Prop}
    (hb : Triple P body Q E') (hh : ∀ what, Triple (E' (.std what)) (handler what) Q E)
    (ha : ∀ w, E' .abort w → E .abort w) : Triple P (catchStd body handler) Q E := by
  intro w hw
  have hr := hb w hw
  rw [Cmd.run_catchStd]
  rcases h : body.run w with ⟨a, w'⟩ | ⟨_ | _, w'⟩ <;> rw [h] at hr
  · exact hr
  · exact hh _ w' hr
  · exact ha w' hr

/-- A destructor's `catch`-all that ends the process. -/
theorem tryCatch_abort {body : Cmd α} {E' : Exception → World → Prop} (hb : Triple P body Q E')
    (ha : ∀ e w, E' e w → E .abort w) :
    Triple P (tryCatch body fun _ => MonadExcept.throw .abort) Q E := by
  intro w hw
  have hr := hb w hw
  rw [Cmd.run_tryCatch]
  rcases h : body.run w with ⟨a, w'⟩ | ⟨e, w'⟩ <;> rw [h] at hr
  · exact hr
  · exact ha e w' hr

/-- The jump of a `do` block's `if` without `else` into what follows it. -/
theorem pure_bind {a : α} {f : α → Cmd β} {Q : β → World → Prop} (h : Triple P (f a) Q E) :
    Triple P (Pure.pure a >>= f) Q E :=
  h

/-- A `throw` in a `do` block's `if`, which never reaches what follows it. -/
theorem throw_bind {e : Exception} {f : α → Cmd β} {Q : β → World → Prop}
    (h : ∀ w, P w → E e w) : Triple P (MonadExcept.throw e >>= f) Q E :=
  h

/-- Both branches of a `do` block's `if` running on into what follows it. -/
theorem ite_bind {c : Prop} [Decidable c] {t e : Cmd α} {f : α → Cmd β} {R : α → World → Prop}
    {Q : β → World → Prop} (ht : Triple P t R E) (he : Triple P e R E)
    (hf : ∀ a, Triple (R a) (f a) Q E) : Triple P (if c then t >>= f else e >>= f) Q E :=
  .ite (fun _ => ht.bind hf) (fun _ => he.bind hf)

end Triple

end Wpmd
