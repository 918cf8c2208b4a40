import EnvBootstrap.Log.Directive
import EnvBootstrap.Proofs.Text.Utf8

/-!
# Where a directive is cut

Positions in a directive are counted behind the blanks in front of it.  So a directive that begins
with no blank is only cut between characters.
-/

namespace EnvBootstrap.Log.Directive

def encoded (chars : List Char) : Bytes := chars.flatMap String.utf8EncodeChar

theorem encoded_append (front behind : List Char) :
    encoded (front ++ behind) = encoded front ++ encoded behind := List.flatMap_append

theorem length_encoded_singleton (c : Char) : (encoded [c]).length = c.utf8Size := by
  rw [encoded, List.flatMap_singleton, String.length_utf8EncodeChar]

theorem isBetween_encoded (front behind : List Char) :
    isBetween (encoded (front ++ behind)) (encoded front).length = true := by
  unfold isBetween
  rw [encoded_append, List.getElem?_append_right (Nat.le_refl _), Nat.sub_self]
  cases behind with
  | nil => rfl
  | cons c behind =>
    obtain ⟨b, rest, hencode, hb⟩ := Utf8.exists_head_encodeChar c
    rw [encoded, List.flatMap_cons, hencode]
    simpa using hb

def Stage.Between (text : Bytes) : Stage → Prop
  | .levelOrTarget first | .span first | .field first | .level first =>
    isBetween text first = true
  | .start | .behindField | .behindSpan => True

/-- A good result, or a fault other than a cut inside a character. -/
def Whole {α : Type} (good : α → Prop) : Except DirectiveFault α → Prop
  | .ok value => good value
  | .error fault => fault ≠ .brokenCharacter

theorem whole_malformed {α : Type} (good : α → Prop) : Whole good (.error .malformed) :=
  fun h => nomatch h

theorem whole_bind {α β : Type} {good : α → Prop} {good' : β → Prop}
    {result : Except DirectiveFault α} {next : α → Except DirectiveFault β}
    (hresult : Whole good result) (hnext : ∀ value, good value → Whole good' (next value)) :
    Whole good' (result >>= next) := by
  cases result with
  | error fault => exact hresult
  | ok value => exact hnext value hresult

theorem whole_cut {text : Bytes} {start stop : Nat} (hstart : isBetween text start = true)
    (hstop : isBetween text stop = true) : Whole (fun _ => True) (cut text start stop) := by
  rw [cut, hstart, hstop]
  trivial

theorem whole_levelOf (text : String) : Whole (fun _ => True) (levelOf text) := by
  unfold levelOf
  repeat' split
  all_goals simp [Whole]

theorem whole_fieldTest (text : String) : Whole (fun _ => True) (fieldTest text) := by
  unfold fieldTest
  repeat' split
  all_goals simp [Whole]

theorem whole_finish {text : Bytes} {stage : Stage} (hstage : stage.Between text)
    (hstop : isBetween text text.length = true) (directive : Directive) :
    Whole (fun _ => True) (finish text directive stage) := by
  cases stage with
  | levelOrTarget first =>
    refine whole_bind (whole_cut hstage hstop) fun word _ => ?_
    split <;> trivial
  | level first =>
    refine whole_bind (whole_cut hstage hstop) fun word _ => ?_
    exact whole_bind (whole_levelOf word) fun verbosity _ => trivial
  | behindSpan => trivial
  | start | span | field | behindField => exact whole_malformed _

theorem whole_step {text : Bytes} {position : Nat} {c : Char} {stage : Stage}
    (hstage : stage.Between text) (hfront : isBetween text position = true)
    (hbehind : isBetween text (position + c.utf8Size) = true) (directive : Directive) :
    Whole (fun next => next.2.Between text) (step text directive position c stage) := by
  cases stage with
  | start =>
    rw [step]
    split
    · next hc =>
      subst hc
      exact hbehind
    · split
      · exact hfront
      · exact whole_malformed _
  | levelOrTarget first =>
    rw [step]
    split
    · next hc =>
      refine whole_bind (whole_cut hstage hfront) fun target _ => ?_
      rw [Bool.or_eq_true, decide_eq_true_eq, decide_eq_true_eq] at hc
      obtain rfl | rfl := hc <;> exact hbehind
    · exact hstage
  | span first =>
    rw [step]
    split
    · exact whole_bind (whole_cut hstage hfront) fun span _ => trivial
    · split
      · next hc =>
        subst hc
        exact whole_bind (whole_cut hstage hfront) fun name _ => hbehind
      · exact hstage
  | field first =>
    rw [step]
    split
    · refine whole_bind (whole_cut hstage hfront) fun word _ => ?_
      exact whole_bind (whole_fieldTest word) fun test _ => trivial
    · exact hstage
  | behindField =>
    rw [step]
    split
    · trivial
    · exact whole_malformed _
  | behindSpan =>
    rw [step]
    split
    · next hc =>
      subst hc
      exact hbehind
    · exact whole_malformed _
  | level first => exact hstage

/-- The characters that are left, with those in front of them and behind them.  The induction is on
those that are left. -/
theorem whole_readFrom (stage : Stage) (front rest behind : List Char)
    (hstage : stage.Between (encoded (front ++ rest ++ behind))) (directive : Directive) :
    Whole (fun _ => True)
      (readFrom (encoded (front ++ rest ++ behind)) directive stage (encoded front).length
        rest) := by
  induction rest generalizing front stage directive with
  | nil =>
    have hstop := isBetween_encoded (front ++ [] ++ behind) []
    rw [List.append_nil (front ++ [] ++ behind)] at hstop
    exact whole_finish hstage hstop directive
  | cons c rest ih =>
    have hchars : front ++ [c] ++ (rest ++ behind) = front ++ c :: rest ++ behind := by simp
    have hfront := isBetween_encoded front (c :: rest ++ behind)
    have hbehind := isBetween_encoded (front ++ [c]) (rest ++ behind)
    rw [← List.append_assoc] at hfront
    rw [hchars, encoded_append front [c], List.length_append, length_encoded_singleton] at hbehind
    refine whole_bind (whole_step hstage hfront hbehind directive) fun next hnext => ?_
    have hrest := ih next.2 (front ++ [c])
    rw [List.append_assoc (front ++ [c]), hchars, encoded_append front [c], List.length_append,
      length_encoded_singleton] at hrest
    exact hrest hnext next.1

theorem exists_trimmed_append {text : String}
    (h : ∀ c, text.toList.head? = some c → Text.isBlank c = false) :
    ∃ behind, text.toList = (Text.trimmed text).toList ++ behind := by
  have hfront : text.toList.dropWhile Text.isBlank = text.toList := by
    cases htext : text.toList with
    | nil => rfl
    | cons c rest =>
      rw [htext] at h
      exact List.dropWhile_cons_of_neg (by simp [h c rfl])
  refine ⟨(text.toList.reverse.takeWhile Text.isBlank).reverse, ?_⟩
  rw [Text.trimmed, String.toList_ofList, hfront, ← List.reverse_append,
    List.takeWhile_append_dropWhile, List.reverse_reverse]

theorem ofText_ne_brokenCharacter {text : String}
    (h : ∀ c, text.toList.head? = some c → Text.isBlank c = false) :
    ofText text ≠ .error .brokenCharacter := by
  obtain ⟨behind, hbehind⟩ := exists_trimmed_append h
  have hwhole := whole_readFrom .start [] (Text.trimmed text).toList behind trivial {}
  rw [List.nil_append, ← hbehind] at hwhole
  intro hbroken
  have hread : readFrom (encoded text.toList) {} .start 0 (Text.trimmed text).toList =
      .error .brokenCharacter := hbroken
  change Whole _ (readFrom _ _ _ 0 _) at hwhole
  rw [hread] at hwhole
  exact hwhole rfl

end EnvBootstrap.Log.Directive
