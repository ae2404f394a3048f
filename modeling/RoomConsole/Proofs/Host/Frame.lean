import RoomConsole.Host.Prompt

/-!
# What the terminal leaves alone

A run carries the whole world, but most of its steps touch only the
terminal: they write to a channel, read the keys typed, or ask a question
and wait for its answer. Such a step keeps the **store**, the files and the
environment, however it ends (`Keeps`).

`pure`, `get`, writing and ending the run keep the store; `>>=`, a loop over
a list and recursion on fuel pass it on; and the user answering
(`World.feed_store`) never touches it. So every prompt keeps it:
`input_keeps`, `confirm_keeps`, `select_keeps`, `password_keeps`.

`run_bind` is how a run of `x >>= f` goes: the run of `x`, then, when that
ends normally, the run of `f` from where it left the world
(`run_bind_ok`).
-/

namespace RoomConsole.Host

variable {α β : Type}

/-! ## Running a step -/

theorem run_bind (x : Run α) (f : α → Run β) (w : World) :
    (x >>= f).run.run w =
      match x.run.run w with
      | (.ok a, w₁) => (f a).run.run w₁
      | (.error e, w₁) => (.error e, w₁) := by
  simp only [ExceptT.run_bind, StateT.run_bind]
  rcases x.run.run w with ⟨_ | a, w₁⟩ <;> rfl

@[simp] theorem run_pure (a : α) (w : World) : (pure a : Run α).run.run w = (.ok a, w) := rfl

@[simp] theorem run_get (w : World) : (get : Run World).run.run w = (.ok w, w) := rfl

@[simp] theorem run_set (w w' : World) : (set w' : Run PUnit).run.run w = (.ok PUnit.unit, w') := rfl

@[simp] theorem run_emit (ch : Channel) (text : String) (w : World) :
    (emit ch text).run.run w = (.ok (), { w with written := w.written ++ [(ch, text)] }) := rfl

@[simp] theorem run_exitWith (e : Ending) (w : World) :
    (exitWith e : Run α).run.run w = (.error e, w) := rfl

/-- **A run of `x >>= f` that ends normally** ran `x` to a normal end, then
`f` from there. -/
theorem run_bind_ok {x : Run α} {f : α → Run β} {w w' : World} {b : β}
    (h : (x >>= f).run.run w = (.ok b, w')) :
    ∃ a w₁, x.run.run w = (.ok a, w₁) ∧ (f a).run.run w₁ = (.ok b, w') := by
  rw [run_bind] at h
  rcases hx : x.run.run w with ⟨_ | a, w₁⟩
  · rw [hx] at h
    cases h
  · rw [hx] at h
    exact ⟨a, w₁, rfl, h⟩

/-! ## The store -/

/-- The part of the world no prompt touches: the files and the
environment. -/
def World.store (w : World) : Files × List (String × String) := (w.files, w.env)

/-- **A step keeps the store**, however it ends. -/
def Keeps (m : Run α) : Prop := ∀ w, (m.run.run w).2.store = w.store

namespace Keeps

theorem pure (a : α) : Keeps (Pure.pure a : Run α) := fun _ => rfl

theorem get : Keeps (MonadState.get : Run World) := fun _ => rfl

theorem emit (ch : Channel) (text : String) : Keeps (Host.emit ch text) := fun _ => rfl

theorem exitWith (e : Ending) : Keeps (Host.exitWith e : Run α) := fun _ => rfl

/-- **Keeping passes through `>>=`**: the store `x` leaves is the one `f`
starts from. -/
theorem bind {x : Run α} {f : α → Run β} (hx : Keeps x) (hf : ∀ a, Keeps (f a)) :
    Keeps (x >>= f) := by
  intro w
  rw [run_bind]
  have hw := hx w
  rcases h : x.run.run w with ⟨_ | a, w₁⟩
  · rw [h] at hw
    exact hw
  · rw [h] at hw
    exact (hf a w₁).trans hw

/-- The store a step that keeps it leaves, read off one of its runs. -/
theorem store_of_run {m : Run α} (hm : Keeps m) {w w' : World} {r : Except Ending α}
    (h : m.run.run w = (r, w')) : w'.store = w.store := by
  have hw := hm w
  rw [h] at hw
  exact hw

theorem forM {l : List β} {f : β → Run PUnit} (hf : ∀ b, Keeps (f b)) : Keeps (l.forM f) := by
  induction l with
  | nil => exact pure _
  | cons b l ih => exact bind (hf b) fun _ => ih

theorem foldlM {l : List β} {f : α → β → Run α} (hf : ∀ a b, Keeps (f a b)) (init : α) :
    Keeps (l.foldlM f init) := by
  induction l generalizing init with
  | nil => exact pure _
  | cons b l ih => exact bind (hf init b) fun a => ih a

end Keeps

/-! ## Keys typed and answers given -/

/-- **The user answering keeps the store**: an answer only types keys. -/
theorem World.feed_store (n : Nat) (w : World) : (World.feed n w).store = w.store := by
  fun_induction World.feed n w with
  | case4 _ _ _ _ _ _ _ _ _ ih => exact ih
  | _ => rfl

theorem pollByte_keeps : Keeps pollByte := by
  intro w
  rw [pollByte, run_bind, run_get]
  dsimp only
  split <;> rw [run_bind, run_set] <;> exact World.feed_store _ w

theorem readByte_keeps : Keeps readByte :=
  pollByte_keeps.bind fun b => by
    cases b
    · exact Keeps.exitWith _
    · exact Keeps.pure _

theorem keysLeft_keeps : Keeps keysLeft := Keeps.get.bind fun _ => Keeps.pure _

/-- Storing a secret changes the keyring only. -/
theorem storeSecret_keeps (account password : String) : Keeps (storeSecret account password) := by
  intro w
  rcases h : w.keyring.store account password with why | k <;>
    simp only [storeSecret, run_bind, run_get, h] <;> rfl

/-! ## Keys -/

theorem rawByte_keeps : Keeps rawByte :=
  readByte_keeps.bind fun _ => by
    split
    · exact Keeps.exitWith _
    · exact Keeps.pure _

theorem rawPoll_keeps : Keeps rawPoll :=
  pollByte_keeps.bind fun b => by
    split
    · split
      · exact Keeps.exitWith _
      · exact Keeps.pure _
    · exact Keeps.pure _

theorem readEscape_keeps : Keeps readEscape := by
  unfold readEscape
  -- follow the escape sequence byte by byte
  repeat' first
    | with_reducible exact rawPoll_keeps
    | with_reducible exact Keeps.pure _
    | with_reducible refine Keeps.bind ?_ fun _ => ?_
    | split
    | dsimp only

theorem rawBytes_keeps (n : Nat) : Keeps (rawBytes n) := by
  induction n with
  | zero => exact Keeps.pure _
  | succ n ih => exact rawByte_keeps.bind fun _ => ih.bind fun _ => Keeps.pure _

theorem readKey_keeps : Keeps readKey := by
  unfold readKey
  repeat' first
    | with_reducible exact rawByte_keeps
    | with_reducible exact readEscape_keeps
    | with_reducible exact rawBytes_keeps _
    | with_reducible exact Keeps.pure _
    | with_reducible refine Keeps.bind ?_ fun _ => ?_
    | split
    | dsimp only

/-! ## Drawing -/

theorem draw_keeps (text : String) : Keeps (draw text) := Keeps.emit _ _

theorem clearLine_keeps : Keeps clearLine := draw_keeps _

theorem clearLastLines_keeps (n : Nat) : Keeps (clearLastLines n) :=
  (draw_keeps _).bind fun _ =>
    (Keeps.forM fun _ => clearLine_keeps.bind fun _ => draw_keeps _).bind fun _ => draw_keeps _

theorem Drawn.line_keeps (d : Drawn) (text : String) : Keeps (d.line text) :=
  (draw_keeps _).bind fun _ => Keeps.pure _

theorem Drawn.question_keeps (d : Drawn) (text : String) : Keeps (d.question text) :=
  (d.line_keeps text).bind fun _ => Keeps.pure _

theorem Drawn.clear_keeps (d : Drawn) : Keeps d.clear :=
  (clearLastLines_keeps _).bind fun _ => Keeps.pure _

theorem Drawn.clearBelow_keeps (d : Drawn) : Keeps d.clearBelow :=
  (clearLastLines_keeps _).bind fun _ => Keeps.pure _

/-! ## Prompts -/

theorem editKey_keeps (promptLen : Nat) (chars : List Char) (pos : Nat) (k : Key) :
    Keeps (editKey promptLen chars pos k) := by
  -- one case per key, so that no branch is left to a catch-all
  cases k <;> unfold editKey <;> dsimp only <;>
  repeat' first
    | with_reducible exact draw_keeps _
    | with_reducible exact clearLine_keeps
    | with_reducible exact Keeps.pure _
    | with_reducible refine Keeps.bind ?_ fun _ => ?_
    | split

theorem editLine_keeps (promptLen fuel : Nat) (chars : List Char) (pos : Nat) :
    Keeps (editLine promptLen fuel chars pos) := by
  induction fuel generalizing chars pos with
  | zero => exact Keeps.exitWith _
  | succ fuel ih =>
    unfold editLine
    -- a key is read and edits the line; the rest of the line is edited with less fuel
    refine readKey_keeps.bind fun k => (editKey_keeps _ _ _ k).bind fun next => ?_
    rcases next with _ | ⟨chars', pos'⟩
    · exact Keeps.pure _
    · exact ih chars' pos'

theorem askLine_keeps (prompt : String) (default : Option String) (check : String → Option String)
    (fuel : Nat) (d : Drawn) : Keeps (askLine prompt default check fuel d) := by
  induction fuel generalizing d with
  | zero => exact Keeps.exitWith _
  | succ fuel ih =>
    unfold askLine
    repeat' first
      | with_reducible exact ih _
      | with_reducible exact editLine_keeps _ _ _ _
      | with_reducible exact draw_keeps _
      | with_reducible exact clearLine_keeps
      | with_reducible exact Drawn.clear_keeps _
      | with_reducible exact Drawn.line_keeps _ _
      | with_reducible exact Keeps.pure _
      | with_reducible refine Keeps.bind ?_ fun _ => ?_
      | split
      | dsimp only

theorem input_keeps (prompt : String) (default : Option String) (check : String → Option String) :
    Keeps (input prompt default check) := by
  unfold input
  repeat' first
    | with_reducible exact Keeps.get
    | with_reducible exact keysLeft_keeps
    | with_reducible exact askLine_keeps _ _ _ _ _
    | with_reducible exact Keeps.pure _
    | with_reducible refine Keeps.bind ?_ fun _ => ?_
    | split

theorem yesNoKeys_keeps (default : Bool) (fuel : Nat) : Keeps (yesNoKeys default fuel) := by
  induction fuel with
  | zero => exact Keeps.exitWith _
  | succ fuel ih =>
    unfold yesNoKeys
    exact readKey_keeps.bind fun _ => by
      split
      all_goals first | exact Keeps.pure _ | exact ih

theorem confirm_keeps (prompt : String) (default : Bool) : Keeps (confirm prompt default) := by
  unfold confirm
  repeat' first
    | with_reducible exact Keeps.get
    | with_reducible exact keysLeft_keeps
    | with_reducible exact yesNoKeys_keeps _ _
    | with_reducible exact draw_keeps _
    | with_reducible exact clearLine_keeps
    | with_reducible exact Keeps.pure _
    | with_reducible refine Keeps.bind ?_ fun _ => ?_
    | split

theorem drawItems_keeps (d : Drawn) (items : List String) (sel : Nat) :
    Keeps (drawItems d items sel) :=
  Keeps.foldlM (fun d _ => d.line_keeps _) d

theorem chooseLoop_keeps (prompt : String) (items : List String) (fuel sel : Nat) (d : Drawn) :
    Keeps (chooseLoop prompt items fuel sel d) := by
  induction fuel generalizing sel d with
  | zero => exact Keeps.exitWith _
  | succ fuel ih =>
    unfold chooseLoop
    repeat' first
      | with_reducible exact ih _ _
      | with_reducible exact drawItems_keeps _ _ _
      | with_reducible exact readKey_keeps
      | with_reducible exact draw_keeps _
      | with_reducible exact Drawn.clear_keeps _
      | with_reducible exact Drawn.clearBelow_keeps _
      | with_reducible exact Drawn.line_keeps _ _
      | with_reducible exact Keeps.pure _
      | with_reducible refine Keeps.bind ?_ fun _ => ?_
      | split

theorem select_keeps (prompt : String) (items : List String) (default : Nat) :
    Keeps (select prompt items default) := by
  unfold select
  repeat' first
    | with_reducible exact Keeps.get
    | with_reducible exact keysLeft_keeps
    | with_reducible exact chooseLoop_keeps _ _ _ _ _
    | with_reducible exact draw_keeps _
    | with_reducible exact Drawn.question_keeps _ _
    | with_reducible exact Keeps.pure _
    | with_reducible refine Keeps.bind ?_ fun _ => ?_
    | split

theorem readHidden_keeps (fuel : Nat) (acc : List UInt8) : Keeps (readHidden fuel acc) := by
  induction fuel generalizing acc with
  | zero => exact Keeps.exitWith _
  | succ fuel ih =>
    unfold readHidden
    repeat' first
      | with_reducible exact ih _
      | with_reducible exact readByte_keeps
      | with_reducible exact Keeps.emit _ _
      | with_reducible exact Keeps.exitWith _
      | with_reducible exact Keeps.pure _
      | with_reducible refine Keeps.bind ?_ fun _ => ?_
      | split

theorem password_keeps (prompt : String) : Keeps (password prompt) := by
  unfold password
  repeat' first
    | with_reducible exact Keeps.get
    | with_reducible exact keysLeft_keeps
    | with_reducible exact readHidden_keeps _ _
    | with_reducible exact Keeps.emit _ _
    | with_reducible exact Keeps.pure _
    | with_reducible refine Keeps.bind ?_ fun _ => ?_
    | split

end RoomConsole.Host
