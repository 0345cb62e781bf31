import ExprLang.Pattern.Parser

/-!
# Reading a pattern inside of a group

A pattern may be read alone or as what stands inside of a group.  There a closing parenthesis and an
anchor follow, and a reader that looks ahead sees them.  `Framed` says of a reader that the two
readings agree, step for step, as long as the pattern lasts.  Where they do not agree nothing good
comes of it: alone the reader fails, or has come to the end of the pattern in a way that is told, and
in the group it fails as well, or has consumed the parenthesis.

Every way of putting readers together has a rule here.

## Main definitions

* `PatternState.enclosed` — the state with the end of a group behind the pattern.
* `Slack` — how the end of a pattern may keep two readings from agreeing.
* `AgreesAt`, `Framed` — the readings agree up to that.
* `Consumes`, `Firm` — a reader does not end before it has consumed something.

## Main results

* `framed_bind`, `firm_bind`, `framed_get`, `framed_peek` — the rules.
-/

namespace ExprLang

/-! ### The end of a group -/

/-- What stands behind a pattern that is read inside of a group. -/
def groupEnd : List Char := [')', '$']

/-- The state with the end of a group behind what is left to read. -/
def PatternState.enclosed (s : PatternState) : PatternState := { s with rest := s.rest ++ groupEnd }

@[simp] theorem PatternState.rest_enclosed (s : PatternState) :
    s.enclosed.rest = s.rest ++ groupEnd := rfl

@[simp] theorem PatternState.flags_enclosed (s : PatternState) : s.enclosed.flags = s.flags := rfl

/-- There is a mark of a comment in the last line. -/
def OpenComment (cs : List Char) : Prop := ∃ as bs, cs = as ++ '#' :: bs ∧ '\n' ∉ bs

theorem OpenComment.of_suffix {cs ds : List Char} (h : OpenComment cs) (hs : cs <:+ ds) :
    OpenComment ds := by
  obtain ⟨as, bs, rfl, hbs⟩ := h
  obtain ⟨front, rfl⟩ := hs
  exact ⟨front ++ as, bs, by rw [List.append_assoc], hbs⟩

theorem OpenComment.cons {cs : List Char} (h : OpenComment cs) (c : Char) : OpenComment (c :: cs) :=
  h.of_suffix (List.suffix_cons c cs)

/-- How the end of a pattern may keep the reading inside of a group from agreeing with that of the
pattern alone. -/
inductive Slack
  /-- Alone the reader fails then. -/
  | none
  /-- Alone it may have come to the end in a comment, which takes the end of the group with it. -/
  | comment
  /-- Alone it may have come to the end in any way. -/
  | loose

namespace Slack

/-- How the reader may end if the pattern is read alone. -/
def Excuses : Slack → PatternState → PatternState → Prop
  | none, _, _ => False
  | comment, s, s' => s'.rest = [] ∧ s'.flags.extended ∧ OpenComment s.rest
  | loose, _, s' => s'.rest = []

/-- How much may be left of the end of the group. -/
def room : Slack → Nat
  | none | comment => 1
  | loose => 2

variable {t : Slack} {s s₁ s₂ : PatternState}

theorem Excuses.rest (h : t.Excuses s s₁) : s₁.rest = [] := by
  cases t with
  | none => exact h.elim
  | comment => exact h.1
  | loose => exact h

theorem Excuses.before (h : t.Excuses s₁ s₂) (hs : s₁.rest <:+ s.rest) : t.Excuses s s₂ := by
  cases t with
  | none => exact h
  | comment => exact ⟨h.1, h.2.1, h.2.2.of_suffix hs⟩
  | loose => exact h

theorem Excuses.behind (h : t.Excuses s s₁) (hs : s₂.rest <:+ s₁.rest) (hflags : s₂.flags = s₁.flags) :
    t.Excuses s s₂ := by
  have hrest : s₂.rest = [] := List.suffix_nil.mp (h.rest ▸ hs)
  cases t with
  | none => exact h
  | comment => exact ⟨hrest, hflags ▸ h.2.1, h.2.2⟩
  | loose => exact hrest

theorem Excuses.loose (h : t.Excuses s s₁) : Slack.loose.Excuses s s₁ := h.rest

theorem room_le_two (t : Slack) : t.room ≤ 2 := by cases t <;> decide

theorem one_le_room (t : Slack) : 1 ≤ t.room := by cases t <;> decide

end Slack

namespace PatternReader

variable {α β : Type} {t : Slack} {s s' : PatternState}

/-- One reader reads a pattern alone, the other one inside of a group, and they agree: they fail both,
or they end both with one result, and what is left to read differs by the end of the group.  Or the
end of the pattern keeps them from it. -/
def AgreesAt (t : Slack) (p q : PatternReader α) (s : PatternState) : Prop :=
  q s.enclosed = (p s).map (fun r => (r.1, r.2.enclosed)) ∨
    (∀ a s', p s = some (a, s') → t.Excuses s s') ∧
      ∀ a s', q s.enclosed = some (a, s') → s'.rest.length ≤ t.room

/-- The reader does not end before it has consumed something. -/
def Consumes (p : PatternReader α) : Prop :=
  ∀ s a s', p s = some (a, s') → s'.rest.length < s.rest.length

/-- What the reader leaves is the end of what was there. -/
def Shrinks (p : PatternReader α) : Prop :=
  ∀ ⦃s a s'⦄, p s = some (a, s') → s'.rest <:+ s.rest

/-- And where nothing is left the flags do not change. -/
structure Tame (p : PatternReader α) : Prop where
  shrinks : Shrinks p
  settles : ∀ {s a s'}, p s = some (a, s') → s.rest = [] → s'.flags = s.flags

/-- The reader reads alike inside of a group. -/
structure Framed (t : Slack) (p : PatternReader α) : Prop extends Tame p where
  agrees : ∀ s, AgreesAt t p p s

/-- It does so also at the end of a pattern, where it fails because it has to consume something. -/
structure Firm (p : PatternReader α) : Prop extends Framed .none p where
  consumes : Consumes p

section

variable {p q : PatternReader α} {f g : α → PatternReader β}

theorem bind_eq_some {b : β} (h : (p >>= f) s = some (b, s')) :
    ∃ a s₁, p s = some (a, s₁) ∧ f a s₁ = some (b, s') := by
  obtain ⟨⟨a, s₁⟩, hp, hf⟩ := Option.bind_eq_some_iff.mp h
  exact ⟨a, s₁, hp, hf⟩

theorem bind_of_some {a : α} (h : p s = some (a, s')) : (p >>= f) s = f a s' := by
  change (p s).bind _ = _
  rw [h]
  rfl

theorem bind_of_none (h : p s = none) : (p >>= f) s = none := by
  change (p s).bind _ = _
  rw [h]
  rfl

theorem bind_eq_none (h : ∀ a s', p s = some (a, s') → f a s' = none) : (p >>= f) s = none := by
  cases hp : p s with
  | none => exact bind_of_none hp
  | some r => exact (bind_of_some hp).trans (h r.1 r.2 hp)

theorem bind_congr_left {q : PatternReader α} (h : p s = q s) : (p >>= f) s = (q >>= f) s := by
  change (p s).bind _ = (q s).bind _
  rw [h]

theorem bind_congr_of (h : ∀ a s', p s = some (a, s') → f a s' = g a s') : (p >>= f) s = (p >>= g) s := by
  cases hp : p s with
  | none => rw [bind_of_none hp, bind_of_none hp]
  | some r => rw [bind_of_some hp, bind_of_some hp, h r.1 r.2 hp]

/-! ### What readers leave -/

theorem tame_pure (a : α) : Tame (pure a) where
  shrinks _ _ _ h := by
    cases h
    exact List.suffix_rfl
  settles h _ := by
    cases h
    rfl

theorem tame_failure : Tame (failure : PatternReader α) where
  shrinks _ _ _ h := by cases h
  settles h := by cases h

theorem Shrinks.bind (hp : Shrinks p) (hf : ∀ a, Shrinks (f a)) : Shrinks (p >>= f) := by
  intro s b s' h
  obtain ⟨a, s₁, h₁, h₂⟩ := bind_eq_some h
  exact (hf a h₂).trans (hp h₁)

theorem shrinks_get {f : PatternState → PatternReader β} (h : ∀ s, Shrinks (f s)) :
    Shrinks (get >>= f) := by
  intro s b s' hs
  exact h s hs

theorem Tame.bind (hp : Tame p) (hf : ∀ a, Tame (f a)) : Tame (p >>= f) where
  shrinks := hp.shrinks.bind fun a => (hf a).shrinks
  settles {s} {b} {s'} h hs := by
    obtain ⟨a, s₁, h₁, h₂⟩ := bind_eq_some h
    have hs₁ : s₁.rest = [] := List.suffix_nil.mp (hs ▸ hp.shrinks h₁)
    exact ((hf a).settles h₂ hs₁).trans (hp.settles h₁ hs)

theorem tame_get {f : PatternState → PatternReader β} (h : ∀ s, Tame (f s)) : Tame (get >>= f) where
  shrinks := shrinks_get fun s => (h s).shrinks
  settles {s} _ _ hs := (h s).settles hs

theorem tame_ite {c : Prop} [Decidable c] (hp : Tame p) (hq : Tame q) : Tame (if c then p else q) := by
  split
  · exact hp
  · exact hq


theorem Consumes.bind (hp : Consumes p) (hf : ∀ a, Shrinks (f a)) : Consumes (p >>= f) := by
  intro s b s' h
  obtain ⟨a, s₁, h₁, h₂⟩ := bind_eq_some h
  exact Nat.lt_of_le_of_lt (hf a h₂).length_le (hp s a s₁ h₁)

theorem consumes_bind (hp : Tame p) (hf : ∀ a, Consumes (f a)) : Consumes (p >>= f) := by
  intro s b s' h
  obtain ⟨a, s₁, h₁, h₂⟩ := bind_eq_some h
  exact Nat.lt_of_lt_of_le (hf a s₁ b s' h₂) (hp.shrinks h₁).length_le

theorem consumes_failure : Consumes (failure : PatternReader α) := by
  intro s a s' h
  cases h

theorem consumes_get {f : PatternState → PatternReader β} (h : ∀ s, Consumes (f s)) :
    Consumes (get >>= f) :=
  fun s => h s s

/-! ### Agreement -/

theorem AgreesAt.of_eq (h : q s.enclosed = (p s).map fun r => (r.1, r.2.enclosed)) : AgreesAt t p q s :=
  .inl h

theorem AgreesAt.mono {u : Slack} (h : AgreesAt t p q s)
    (hexcuses : ∀ s', t.Excuses s s' → u.Excuses s s') (hroom : t.room ≤ u.room) :
    AgreesAt u p q s :=
  h.imp id fun ⟨hp, hq⟩ =>
    ⟨fun a s' h => hexcuses s' (hp a s' h), fun a s' h => Nat.le_trans (hq a s' h) hroom⟩

theorem AgreesAt.of_none (h : AgreesAt .none p q s) : AgreesAt t p q s :=
  h.mono (fun _ h => h.elim) t.one_le_room

theorem AgreesAt.loose (h : AgreesAt t p q s) : AgreesAt .loose p q s :=
  h.mono (fun _ h => h.loose) t.room_le_two

/-- Where the first parts read alike, the readers agree if those that follow do. -/
theorem AgreesAt.bind_of_eq (hsame : q s.enclosed = (p s).map fun r => (r.1, r.2.enclosed))
    (hp : Shrinks p) (hfg : ∀ a s', p s = some (a, s') → AgreesAt t (f a) (g a) s') :
    AgreesAt t (p >>= f) (q >>= g) s := by
  cases hps : p s with
  | none =>
    rw [hps] at hsame
    exact .inl (by rw [bind_of_none hps, bind_of_none hsame]; rfl)
  | some r =>
    rw [hps] at hsame
    rw [AgreesAt, bind_of_some hps, bind_of_some hsame]
    exact (hfg r.1 r.2 hps).imp id fun h => ⟨fun b s' hb => (h.1 b s' hb).before (hp hps), h.2⟩

/-- Where they do not, it is left to the second parts how the readers end. -/
theorem AgreesAt.bind_of {u : Slack} (h : AgreesAt u p q s) (hp : Shrinks p)
    (hfg : ∀ a s', p s = some (a, s') → AgreesAt t (f a) (g a) s')
    (hf : ∀ {a s₁ b s'}, u.Excuses s s₁ → f a s₁ = some (b, s') → t.Excuses s s')
    (hg : ∀ {a s₁ b s'}, s₁.rest.length ≤ u.room → g a s₁ = some (b, s') →
      s'.rest.length ≤ t.room) : AgreesAt t (p >>= f) (q >>= g) s := by
  rcases h with hsame | ⟨halone, hgroup⟩
  · exact .bind_of_eq hsame hp hfg
  · refine .inr ⟨fun b s' hb => ?_, fun b s' hb => ?_⟩
    · obtain ⟨a, s₁, h₁, h₂⟩ := bind_eq_some hb
      exact hf (halone a s₁ h₁) h₂
    · obtain ⟨a, s₁, h₁, h₂⟩ := bind_eq_some hb
      exact hg (hgroup a s₁ h₁) h₂

/-- What follows keeps to what is told of the ends of the first parts. -/
theorem AgreesAt.bind (h : AgreesAt t p q s) (hp : Shrinks p)
    (hfg : ∀ a s', p s = some (a, s') → AgreesAt t (f a) (g a) s')
    (hf : ∀ a, Tame (f a)) (hg : ∀ a, Shrinks (g a)) : AgreesAt t (p >>= f) (q >>= g) s :=
  h.bind_of hp hfg
    (fun hexcused hb => hexcused.behind ((hf _).shrinks hb) ((hf _).settles hb hexcused.rest))
    fun hroom hb => Nat.le_trans (hg _ hb).length_le hroom

/-- Where the first parts always agree, flags may change behind them. -/
theorem AgreesAt.bind_of_none (h : AgreesAt .none p q s) (hp : Shrinks p)
    (hfg : ∀ a s', p s = some (a, s') → AgreesAt t (f a) (g a) s') (hg : ∀ a, Shrinks (g a)) :
    AgreesAt t (p >>= f) (q >>= g) s :=
  h.bind_of hp hfg (fun hexcused _ => hexcused.elim)
    fun hroom hb => Nat.le_trans (hg _ hb).length_le (Nat.le_trans hroom t.one_le_room)

/-- If something has to be consumed behind the first parts, their ends do not matter. -/
theorem AgreesAt.bind_consumes {u : Slack} (h : AgreesAt u p q s) (hp : Shrinks p)
    (hfg : ∀ a s', p s = some (a, s') → AgreesAt t (f a) (g a) s')
    (hf : ∀ a, Consumes (f a)) (hg : ∀ a, Consumes (g a)) :
    AgreesAt t (p >>= f) (q >>= g) s := by
  refine h.bind_of hp hfg (fun {a s₁ b s'} hexcused hb => ?_) fun {a s₁ b s'} hroom hb => ?_
  · have hlt := hf a s₁ b s' hb
    rw [hexcused.rest] at hlt
    exact absurd hlt (Nat.not_lt_zero _)
  · have hlt := hg a s₁ b s' hb
    have hle := Nat.le_trans hroom u.room_le_two
    exact Nat.le_trans (Nat.le_of_lt_succ (Nat.lt_of_lt_of_le hlt hle)) t.one_le_room

/-- Where nothing is left of a pattern, little is left inside of a group. -/
theorem AgreesAt.of_nil (hp : Tame p) (hq : Tame q) (hs : s.rest = []) : AgreesAt .loose p q s := by
  refine .inr ⟨fun a s' h => List.suffix_nil.mp (hs ▸ hp.shrinks h), fun a s' h => ?_⟩
  have hle := (hq.shrinks h).length_le
  rw [PatternState.rest_enclosed, hs] at hle
  exact hle

/-- Who has to consume something fails where nothing is left of a pattern. -/
theorem AgreesAt.of_consumes (hp : Consumes p) (hq : Consumes q) (hs : s.rest = []) :
    AgreesAt .none p q s := by
  refine .inr ⟨fun a s' h => ?_, fun a s' h => ?_⟩
  · have hlt := hp s a s' h
    rw [hs] at hlt
    exact absurd hlt (Nat.not_lt_zero _)
  · have hlt := hq s.enclosed a s' h
    rw [PatternState.rest_enclosed, hs] at hlt
    exact Nat.le_of_lt_succ hlt

theorem AgreesAt.congr_left (h : AgreesAt t p q s) {r : PatternReader α} (hr : r s = p s) :
    AgreesAt t r q s := by
  rw [AgreesAt, hr]
  exact h

/-- A reader that goes on as another one from a later state. -/
theorem AgreesAt.of_step {p' q' : PatternReader α} {s₁ : PatternState} (h : AgreesAt t p q s₁)
    (hp : p' s = p s₁) (hq : q' s.enclosed = q s₁.enclosed) (hs : s₁.rest <:+ s.rest) :
    AgreesAt t p' q' s := by
  rw [AgreesAt, hp, hq]
  exact h.imp id fun h => ⟨fun a s' h' => (h.1 a s' h').before hs, h.2⟩

theorem agreesAt_get {f g : PatternState → PatternReader β} (h : AgreesAt t (f s) (g s.enclosed) s) :
    AgreesAt t (get >>= f) (get >>= g) s := h

/-! ### Framed readers -/

theorem Framed.of_none (h : Framed .none p) : Framed t p := ⟨h.toTame, fun s => (h.agrees s).of_none⟩

theorem Framed.loose (h : Framed t p) : Framed .loose p := ⟨h.toTame, fun s => (h.agrees s).loose⟩

theorem framed_pure (a : α) : Framed t (pure a) := ⟨tame_pure a, fun _ => .inl rfl⟩

theorem framed_failure : Framed t (failure : PatternReader α) := ⟨tame_failure, fun _ => .inl rfl⟩

theorem framed_bind (hp : Framed t p) (hf : ∀ a, Framed t (f a)) : Framed t (p >>= f) where
  toTame := hp.toTame.bind fun a => (hf a).toTame
  agrees s := (hp.agrees s).bind hp.shrinks (fun a s' _ => (hf a).agrees s')
    (fun a => (hf a).toTame) fun a => (hf a).shrinks

/-- If the first part does not read alike, then it fails alone, and what comes of it inside of a group is
refused by what follows. -/
theorem framed_bind_or {refused : α → PatternState → Prop} (hp : Tame p)
    (h : ∀ s, AgreesAt t p p s ∨
      p s = none ∧ ∃ a s', p s.enclosed = some (a, s') ∧ refused a s')
    (hf : ∀ a, Framed t (f a)) (hrefused : ∀ {a s'}, refused a s' → f a s' = none) :
    Framed t (p >>= f) where
  toTame := hp.bind fun a => (hf a).toTame
  agrees s := by
    rcases h s with h | ⟨halone, a, s', hgroup, hend⟩
    · exact h.bind hp.shrinks (fun a s' _ => (hf a).agrees s') (fun a => (hf a).toTame)
        fun a => (hf a).shrinks
    · refine .of_eq ?_
      rw [bind_of_none halone, bind_of_some hgroup, hrefused hend]
      rfl

theorem framed_bind_of_consumes (hp : Framed t p) (hconsumes : Consumes p) (hf : ∀ a, Framed t (f a)) :
    Framed t (p >>= f) ∧ Consumes (p >>= f) :=
  ⟨framed_bind hp hf, hconsumes.bind fun a => (hf a).shrinks⟩

/-- What is read may depend on the flags. -/
theorem framed_get {f : PatternState → PatternReader β} (hsame : ∀ s, f s.enclosed = f s)
    (h : ∀ s, Framed t (f s)) : Framed t (get >>= f) where
  toTame := tame_get fun s => (h s).toTame
  agrees s := agreesAt_get (by rw [hsame]; exact (h s).agrees s)

theorem framed_unless {c : Prop} [Decidable c] {jp : Unit → PatternReader α} (h : Framed t (jp ())) :
    Framed t (if c then failure >>= jp else jp ()) := by
  split
  · exact framed_failure
  · exact h

theorem framed_ite {c : Prop} [Decidable c] (hp : Framed t p) (hq : Framed t q) :
    Framed t (if c then p else q) := by
  split
  · exact hp
  · exact hq

/-- For readers that end in any way the last character of a pattern is the last to look at. -/
theorem framed_of_ne_nil (hp : Tame p) (h : ∀ s, s.rest ≠ [] → AgreesAt .loose p p s) :
    Framed .loose p where
  toTame := hp
  agrees s := by
    by_cases hs : s.rest = []
    · exact .of_nil hp hp hs
    · exact h s hs

/-- Where a number of steps is given that is large enough, it does not matter that more characters are
left inside of a group. -/
theorem framed_run {q : Nat → PatternReader α} (h : ∀ n, Framed t (q n))
    (hstable : ∀ {n m s}, s.rest.length ≤ n → s.rest.length ≤ m → q n s = q m s) :
    Framed t (get >>= fun s => q s.rest.length) where
  toTame := tame_get fun s => (h _).toTame
  agrees s := by
    refine agreesAt_get (((h s.enclosed.rest.length).agrees s).congr_left ?_)
    exact hstable (Nat.le_refl _) (by simp)

/-- So what goes for a framed reader with another one behind it goes for such steps as well. -/
theorem run_bind {P : PatternReader β → Prop} {q : Nat → PatternReader α} (h : ∀ n, Framed t (q n))
    (hstable : ∀ {n m s}, s.rest.length ≤ n → s.rest.length ≤ m → q n s = q m s)
    (hbind : ∀ p, Framed t p → P (p >>= f)) : P (get >>= fun s => q s.rest.length >>= f) := by
  rw [← bind_assoc]
  exact hbind _ (framed_run h hstable)

/-- As many steps as there are characters are enough, if each step takes one and nothing is read at the
end. -/
theorem steps_stable {q : Nat → PatternReader α} {a : α}
    (hnil : ∀ {s : PatternState}, s.rest = [] → ∀ n, q n s = some (a, s))
    (hstep : ∀ {n m : Nat} {s : PatternState},
      (∀ {s' : PatternState}, s'.rest.length < s.rest.length → q n s' = q m s') →
        q (n + 1) s = q (m + 1) s) :
    ∀ {n m : Nat} {s : PatternState}, s.rest.length ≤ n → s.rest.length ≤ m → q n s = q m s := by
  have hempty : ∀ {s : PatternState}, s.rest.length ≤ 0 → s.rest = [] := fun h =>
    List.eq_nil_of_length_eq_zero (Nat.le_zero.mp h)
  intro n
  induction n with
  | zero =>
    intro m s hn _
    rw [hnil (hempty hn), hnil (hempty hn)]
  | succ n ih =>
    intro m s hn hm
    cases m with
    | zero => rw [hnil (hempty hm), hnil (hempty hm)]
    | succ m => exact hstep fun hlt => ih (by omega) (by omega)

theorem tame_peek : Tame peek := tame_get fun _ => tame_pure _

theorem peek_of_nil (h : s.rest = []) : peek s = some (none, s) := by
  change some (s.rest.head?, s) = _
  rw [h]
  rfl

theorem agreesAt_peek {f : Option Char → PatternReader β} (hs : s.rest ≠ []) :
    AgreesAt t (peek >>= f) (peek >>= f) s ↔ AgreesAt t (f s.rest.head?) (f s.rest.head?) s := by
  have halone : (peek >>= f) s = f s.rest.head? s := rfl
  have hgroup : (peek >>= f) s.enclosed = f (s.rest ++ groupEnd).head? s.enclosed := rfl
  have hhead : (s.rest ++ groupEnd).head? = s.rest.head? := by
    obtain ⟨c, rest, hcons⟩ := List.exists_cons_of_ne_nil hs
    rw [hcons]
    rfl
  rw [AgreesAt, AgreesAt, halone, hgroup, hhead]

/-- What is read may depend on the next character, if the end of a pattern is as good for it as the
closing parenthesis. -/
theorem framed_peek {f : Option Char → PatternReader β} (hend : f (some ')') = f none)
    (h : ∀ c, Framed t (f c)) : Framed t (peek >>= f) where
  toTame := tame_peek.bind fun c => (h c).toTame
  agrees s := by
    by_cases hs : s.rest = []
    · have halone : (peek >>= f) s = f none s := by
        change f s.rest.head? s = _
        rw [hs]
        rfl
      have hgroup : (peek >>= f) s.enclosed = f none s.enclosed := by
        change f (s.rest ++ groupEnd).head? s.enclosed = _
        rw [hs, ← hend]
        rfl
      rw [AgreesAt, halone, hgroup]
      exact (h none).agrees s
    · rw [agreesAt_peek hs]
      exact (h _).agrees s

/-- Or if it does not matter in which way it ends there. -/
theorem framed_peek_loose {f : Option Char → PatternReader β} (h : ∀ c, Framed .loose (f c)) :
    Framed .loose (peek >>= f) :=
  framed_of_ne_nil (tame_peek.bind fun c => (h c).toTame) fun s hs =>
    (agreesAt_peek hs).mpr ((h _).agrees s)

/-- What the end of a pattern is to the next reader matters only where that has to agree. -/
theorem framed_peek_of {f : Option Char → PatternReader β} (hend : t = .loose ∨ f (some ')') = f none)
    (h : ∀ c, Framed t (f c)) : Framed t (peek >>= f) := by
  rcases hend with rfl | hend
  · exact framed_peek_loose h
  · exact framed_peek hend h

/-! ### Firm readers -/

theorem firm_failure : Firm (failure : PatternReader α) := ⟨framed_failure, consumes_failure⟩

theorem Firm.bind (hp : Firm p) (hf : ∀ a, Framed .none (f a)) : Firm (p >>= f) :=
  ⟨framed_bind hp.toFramed hf, hp.consumes.bind fun a => (hf a).shrinks⟩

/-- In front of a firm reader the end of a pattern may keep others from agreeing. -/
theorem firm_bind (hp : Framed t p) (hf : ∀ a, Firm (f a)) : Firm (p >>= f) where
  toTame := hp.toTame.bind fun a => (hf a).toTame
  agrees s := (hp.agrees s).bind_consumes hp.shrinks (fun a s' _ => (hf a).agrees s')
    (fun a => (hf a).consumes) fun a => (hf a).consumes
  consumes := consumes_bind hp.toTame fun a => (hf a).consumes

theorem firm_ite {c : Prop} [Decidable c] (hp : Firm p) (hq : Firm q) : Firm (if c then p else q) := by
  split
  · exact hp
  · exact hq

/-- What is read may depend on what is left, as long as that is something. -/
theorem firm_get {f : PatternState → PatternReader β} (hsame : ∀ s, s.rest ≠ [] → f s.enclosed = f s)
    (h : ∀ s, Firm (f s)) : Firm (get >>= f) where
  toTame := tame_get fun s => (h s).toTame
  agrees s := by
    refine agreesAt_get ?_
    by_cases hs : s.rest = []
    · exact .of_consumes (h s).consumes (h s.enclosed).consumes hs
    · rw [hsame s hs]
      exact (h s).agrees s
  consumes := consumes_get fun s => (h s).consumes

theorem firm_peek {f : Option Char → PatternReader β} (h : ∀ c, Firm (f c)) : Firm (peek >>= f) where
  toTame := tame_peek.bind fun c => (h c).toTame
  agrees s := by
    have hconsumes := consumes_bind tame_peek fun c => (h c).consumes
    by_cases hs : s.rest = []
    · exact .of_consumes hconsumes hconsumes hs
    · rw [agreesAt_peek hs]
      exact (h _).agrees s
  consumes := consumes_bind tame_peek fun c => (h c).consumes

end

end PatternReader
end ExprLang
