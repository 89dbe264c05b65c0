import ConfigRegistry.Json.Record

/-!
Reads that answer. What a read answers and which bytes it leaves depends on the bytes before it
alone, and not on the line and column that it counts; so reads are put together by what they leave.
-/
namespace ConfigRegistry.Json

@[simp] theorem Cursor.rest_start (bytes : List UInt8) : (Cursor.start bytes).rest = bytes := rfl

@[simp] theorem Cursor.rest_advance (c : Cursor) : c.advance.rest = c.rest.tail := by
  obtain ⟨rest, left, line, column, h⟩ := c
  cases rest with
  | nil => rfl
  | cons b rest =>
    simp only [advance]
    split <;> rfl

@[simp] theorem Cursor.rest_advanceBy (c : Cursor) (n : Nat) :
    (c.advanceBy n).rest = c.rest.drop n := by
  induction n generalizing c with
  | zero => rfl
  | succ n ih => rw [advanceBy, ih, rest_advance, List.drop_tail]

def Reads {α : Type} (r : Read α) (bytes : List UInt8) (a : α) (left : List UInt8) : Prop :=
  ∀ c : Cursor, c.rest = bytes → ∃ c', r c = .ok a c' ∧ c'.rest = left

namespace Reads

open Read

variable {α β σ : Type} {r : Read α} {a : α} {b : β} {bytes left left' : List UInt8}

theorem pure (a : α) (bytes : List UInt8) : Reads (pure a) bytes a bytes :=
  fun c hc => ⟨c, rfl, hc⟩

theorem bind {f : α → Read β} (h : Reads r bytes a left) (hf : Reads (f a) left b left') :
    Reads (r >>= f) bytes b left' := by
  intro c hc
  obtain ⟨c', hr, hleft⟩ := h c hc
  obtain ⟨c'', hb, hleft'⟩ := hf c' hleft
  refine ⟨c'', ?_, hleft'⟩
  show EStateM.bind r f c = _
  simp only [EStateM.bind, hr, hb]

theorem peek (bytes : List UInt8) : Reads peek bytes bytes.head? bytes :=
  fun c hc => ⟨c, by rw [Read.peek, hc], hc⟩

theorem eat (b : UInt8) (left : List UInt8) : Reads eat (b :: left) () left :=
  fun c hc => ⟨c.advance, rfl, by rw [Cursor.rest_advance, hc, List.tail_cons]⟩

theorem next (b : UInt8) (left : List UInt8) : Reads next (b :: left) (some b) left :=
  fun c hc => ⟨c.advance, by rw [Read.next, hc, List.head?_cons],
    by rw [Cursor.rest_advance, hc, List.tail_cons]⟩

theorem remaining (bytes : List UInt8) : Reads remaining bytes bytes.length bytes :=
  fun c hc => ⟨c, by rw [Read.remaining, c.left_eq, hc], hc⟩

theorem run (p : UInt8 → Bool) (bytes : List UInt8) :
    Reads (run p) bytes (bytes.takeWhile p) (bytes.dropWhile p) := by
  intro c hc
  refine ⟨c.advanceBy (bytes.takeWhile p).length, by simp only [Read.run, hc], ?_⟩
  rw [Cursor.rest_advanceBy, hc]
  have hsplit := List.takeWhile_append_dropWhile (p := p) (l := bytes)
  calc bytes.drop (bytes.takeWhile p).length
      = (bytes.takeWhile p ++ bytes.dropWhile p).drop (bytes.takeWhile p).length := by rw [hsplit]
    _ = bytes.dropWhile p := List.drop_left

/-- A byte that is not blank is what stands behind blanks. -/
theorem peekPastBlank {b : UInt8} (hb : isBlank b = false) (left : List UInt8) :
    Reads peekPastBlank (b :: left) (some b) (b :: left) := by
  have hrun := run isBlank (b :: left)
  rw [List.takeWhile_cons_of_neg (by simp [hb]), List.dropWhile_cons_of_neg (by simp [hb])] at hrun
  exact hrun.bind (peek _)

theorem peekPastBlank_nil : Reads Read.peekPastBlank [] none [] := (run isBlank []).bind (peek [])

theorem first {b : UInt8} (hb : isBlank b = false) (left : List UInt8) :
    Reads first (b :: left) b (b :: left) := (peekPastBlank hb left).bind (pure b _)

theorem located (h : Reads r bytes a left) : Reads (located r) bytes a left := by
  intro c hc
  obtain ⟨c', hr, hleft⟩ := h c hc
  exact ⟨c', by rw [Read.located, hr], hleft⟩

theorem closedBy {close : Read Unit} (h : Reads r bytes a left)
    (hclose : Reads close left () left') : Reads (r.closedBy close) bytes a left' := by
  intro c hc
  obtain ⟨c', hr, hleft⟩ := h c hc
  obtain ⟨c'', hdone, hleft'⟩ := hclose c' hleft
  exact ⟨c'', by simp only [Read.closedBy, hr, hdone], hleft'⟩

/-! Loops. -/

variable {step : σ → Read (σ ⊕ α)} {s s' : σ} {fuel : Nat}

theorem loop_done (h : Reads (step s) bytes (.inr a) left) :
    Reads (loop step (fuel + 1) s) bytes a left := h.bind (pure a left)

theorem loop_next (h : Reads (step s) bytes (.inl s') left)
    (hloop : Reads (loop step fuel s') left a left') :
    Reads (loop step (fuel + 1) s) bytes a left' := h.bind hloop

/-- A loop answers if it does so within as many steps as there are bytes, and one more. -/
theorem iterate (h : Reads (loop step (bytes.length + 1) s) bytes a left) :
    Reads (iterate step s) bytes a left := (remaining bytes).bind h

theorem answer_eq {o : EStateM.Result Problem Cursor α} (ho : r (.start bytes) = o)
    (h : Reads r bytes a left) : ∃ c, o = .ok a c := by
  obtain ⟨c, hread, _⟩ := h (.start bytes) rfl
  exact ⟨c, ho.symm.trans hread⟩

/-- A text that is read to its end has an answer. -/
theorem all (h : Reads r bytes a []) : r.all bytes = .ok a := by
  unfold Read.all
  dsimp only
  split
  · next ho =>
    obtain ⟨_, hanswer⟩ := answer_eq ho (h.bind (peekPastBlank_nil.bind (pure a [])))
    obtain ⟨rfl, _⟩ := EStateM.Result.ok.inj hanswer
    rfl
  · next ho =>
    obtain ⟨_, hanswer⟩ := answer_eq ho (h.bind (peekPastBlank_nil.bind (pure a [])))
    contradiction

end Reads

end ConfigRegistry.Json
