import TableLineage.Sql.Grammar.Basic

/-!
# What a parser reads

`Runs` says what a parser makes of the lexemes ahead, whatever has been written
before.  Its rules follow the combinators that productions are made of, so that a
production is followed one part at a time.
-/

namespace TableLineage.Sql

open Sql.Parser

abbrev Result (d : Dialect) (α : Type) := Except (Failure d) (α × List Lexeme)

def Runs (p : Parser α) (env : Env) (ahead : List Lexeme) (result : Result env.dialect α) :
    Prop :=
  ∀ written, (p env ⟨ahead, written⟩).map (fun read => (read.1, read.2.ahead)) = result

abbrev Reads (p : Parser α) (env : Env) (ahead : List Lexeme) (a : α) (left : List Lexeme) : Prop :=
  Runs p env ahead (.ok (a, left))

variable {env : Env} {ahead middle left : List Lexeme} {α β : Type} {a b : α}

theorem Runs.exists_written {p : Parser α} (hp : Reads p env ahead a left) (written : Wording) :
    ∃ written', p env ⟨ahead, written⟩ = .ok (a, ⟨left, written'⟩) := by
  have hp := hp written
  cases hread : p env ⟨ahead, written⟩ with
  | error failure =>
      rw [hread] at hp
      cases hp
  | ok read =>
      obtain ⟨a', left', written'⟩ := read
      rw [hread] at hp
      cases hp
      exact ⟨written', rfl⟩

theorem Runs.eq_error {p : Parser α} {failure : Failure env.dialect}
    (hp : Runs p env ahead (.error failure))
    (written : Wording) : p env ⟨ahead, written⟩ = .error failure := by
  have hp := hp written
  cases hread : p env ⟨ahead, written⟩ with
  | error failure' =>
      rw [hread] at hp
      cases hp
      rfl
  | ok read =>
      rw [hread] at hp
      cases hp

theorem Runs.pure (h : a = b) : Reads (Pure.pure a) env left b left := by
  subst h
  exact fun _ => rfl

theorem Runs.bind {p : Parser α} {f : α → Parser β} {result : Result env.dialect β}
    (hp : Reads p env ahead a middle) (hf : Runs (f a) env middle result) :
    Runs (p >>= f) env ahead result := by
  intro written
  obtain ⟨written', hp⟩ := hp.exists_written written
  change (Parser.bind p f env _).map _ = _
  rw [Parser.bind, hp]
  exact hf written'

theorem Runs.bind_error {p : Parser α} {failure : Failure env.dialect}
    (hp : Runs p env ahead (.error failure)) (f : α → Parser β) :
    Runs (p >>= f) env ahead (.error failure) := by
  intro written
  change (Parser.bind p f env _).map _ = _
  rw [Parser.bind, hp.eq_error written]
  rfl

/-- What follows a parser reads nothing, so only the answer changes. -/
theorem Runs.followed {p : Parser α} {f : α → Parser β} {g : α → β} {result : Result env.dialect α}
    (hp : Runs p env ahead result)
    (hf : ∀ a left, result = .ok (a, left) → Reads (f a) env left (g a) left) :
    Runs (p >>= f) env ahead (result.map fun read => (g read.1, read.2)) := by
  cases result with
  | error failure => exact hp.bind_error f
  | ok read => exact hp.bind (hf read.1 read.2 rfl)

theorem Runs.kept {p : Parser α} {f : α → Parser α} {result : Result env.dialect α}
    (hp : Runs p env ahead result)
    (hf : ∀ a left, result = .ok (a, left) → Reads (f a) env left a left) :
    Runs (p >>= f) env ahead result := by
  have hkept := hp.followed hf
  cases result <;> exact hkept

theorem Runs.nested {p : Parser α} {d : Dialect} {depth steps : Nat} {s : Surroundings}
    {result : Result d α} (hp : Runs p ⟨d, depth, steps, s⟩ ahead result) :
    Runs (nested p) ⟨d, depth + 1, steps, s⟩ ahead result := hp

theorem Runs.unwritten {p : Parser α} (hp : Reads p env ahead a left) :
    Reads (unwritten p) env ahead a left := by
  intro written
  obtain ⟨written', hp⟩ := hp.exists_written written
  rw [Parser.unwritten, hp]
  rfl

theorem Runs.exists_apart {p : Parser α} (hp : Reads p env ahead a left) :
    ∃ wording, Reads (apart p) env ahead (a, wording) left := by
  obtain ⟨wording, hp⟩ := hp.exists_written []
  refine ⟨wording, fun written => ?_⟩
  rw [apart, hp]
  rfl

section Words

variable {word : Word} {spaced : Bool} {rest : List Lexeme}

theorem reads_keyword?_of_ne {keyword : String} (h : word.keyword ≠ keyword) :
    Reads (keyword? keyword) env (⟨.word word, spaced⟩ :: rest) false
      (⟨.word word, spaced⟩ :: rest) := by
  intro written
  change ((if (word.keyword == keyword) = true then _ else _ : Parser Bool) env _).map _ = _
  rw [if_neg (by simpa using h)]
  rfl

theorem reads_keywords?_of_ne {keyword : String} (h : word.keyword ≠ keyword)
    (keywords : List String) :
    Reads (keywords? (keyword :: keywords)) env (⟨.word word, spaced⟩ :: rest) false
      (⟨.word word, spaced⟩ :: rest) := by
  have hstart : startWithKeywords (keyword :: keywords) (⟨.word word, spaced⟩ :: rest) = none :=
    if_neg (by simpa using h)
  refine .bind (a := ⟨.word word, spaced⟩ :: rest) (fun _ => rfl) ?_
  rw [hstart]
  exact .pure rfl

theorem reads_atAnyKeyword_of_notMem {keywords : List String} (h : word.keyword ∉ keywords) :
    Reads (atAnyKeyword keywords) env (⟨.word word, spaced⟩ :: rest) false
      (⟨.word word, spaced⟩ :: rest) := by
  have hany : (keywords.any fun keyword => word.keyword == keyword) = false := by
    rw [List.any_eq_false]
    intro keyword hkeyword
    rw [beq_iff_eq]
    rintro rfl
    exact h hkeyword
  intro written
  change Except.ok (keywords.any fun keyword => word.keyword == keyword, _) = _
  rw [hany]

end Words

/-! ## Lists -/

theorem runs_separatedUntil_one {d : Dialect} {depth steps : Nat} {s : Surroundings}
    {item : Parser α} {result : Result d α} (ends : Parser Bool)
    (hitem : Runs item ⟨d, depth, steps + 1, s⟩ ahead result)
    (hcomma : ∀ a left, result = .ok (a, left) →
      Reads (unwritten (symbol? ",")) ⟨d, depth, steps + 1, s⟩ left false left) :
    Runs (separatedUntil ends item) ⟨d, depth, steps + 1, s⟩ ahead
      (result.map fun read => ([read.1], read.2)) := by
  unfold separatedUntil loop
  cases result with
  | error failure =>
      refine .bind_error ?_ _
      exact .bind (a := ⟨d, depth, steps + 1, s⟩) (fun _ => rfl)
        (.bind_error (hitem.bind_error _) _)
  | ok read =>
      refine .bind (a := [read.1]) ?_ (.pure rfl)
      refine .bind (a := ⟨d, depth, steps + 1, s⟩) (fun _ => rfl) ?_
      refine .bind (a := ([read.1], false)) (.bind hitem ?_) (.pure rfl)
      exact .bind (hcomma _ _ rfl) (.pure rfl)

end TableLineage.Sql
