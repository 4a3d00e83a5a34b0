import Garnd.Environment
import Garnd.WelcomeThread
import Garnd.Lib.Utf8Padding

/- The framing of requests: what the two `receive_and_parse_request` functions make
   of a message, compared with what the whole message says. A message that fits
   in the buffer is followed by zeros, which the deserializers ignore; of a longer
   one, only what fits is read. -/
namespace Garnd
open Utf8Padding

/-- The deserializer ignores zeros at the end. -/
def IgnoresPadding (deserialize : String → Option String) : Prop :=
  ∀ s k, deserialize (s ++ nuls k) = deserialize s

/-- The request that a message carries as a whole: it is UTF-8 and deserializes. -/
def wholeRequest (deserialize : String → Option String) (m : Message) : Option String :=
  (String.fromUTF8? ⟨m.toArray⟩).bind deserialize

/-- The whole message decides: it fits in the buffer, or what fits of it carries the
same request, if any. -/
def WholeDecides (maxSize : ℕ) (deserialize : String → Option String) (m : Message) : Prop :=
  m.length ≤ maxSize ∨ wholeRequest deserialize (m.take maxSize) = wholeRequest deserialize m

theorem parseRequest_ok_iff {maxSize : ℕ} {deserialize : String → Option String} {m : Message}
    {r : String} : parseRequest maxSize deserialize m = .ok r ↔
      wholeRequest deserialize (m.take maxSize ++ List.replicate (maxSize - m.length) 0) = some r := by
  unfold parseRequest wholeRequest receiveBuffer
  cases String.fromUTF8? ⟨(m.take maxSize ++ List.replicate (maxSize - m.length) 0).toArray⟩ with
  | none => exact iff_of_false nofun nofun
  | some requestStr =>
    simp only [Option.bind_some]
    cases deserialize requestStr with
    | none => exact iff_of_false nofun nofun
    | some name =>
      simp only [Except.ok.injEq, Option.some.injEq]

theorem wholeRequest_padded {deserialize : String → Option String} (h : IgnoresPadding deserialize)
    (m : Message) (k : ℕ) :
    wholeRequest deserialize (m ++ List.replicate k 0) = wholeRequest deserialize m := by
  unfold wholeRequest
  rw [fromUTF8?_padded]
  cases String.fromUTF8? ⟨m.toArray⟩ with
  | none => rfl
  | some s => exact h s k

/-- What is accepted, is what fits says. -/
theorem parseRequest_take {maxSize : ℕ} {deserialize : String → Option String}
    (h : IgnoresPadding deserialize) {m : Message} {r : String} :
    parseRequest maxSize deserialize m = .ok r ↔
      wholeRequest deserialize (m.take maxSize) = some r := by
  rw [parseRequest_ok_iff, wholeRequest_padded h]

theorem wholeDecides_iff {maxSize : ℕ} {deserialize : String → Option String} {m : Message} :
    WholeDecides maxSize deserialize m ↔
      wholeRequest deserialize (m.take maxSize) = wholeRequest deserialize m := by
  refine ⟨?_, .inr⟩
  rintro (hfits | h)
  · rw [List.take_of_length_le hfits]
  · exact h

/-- A request is accepted exactly if the whole message carries it, and otherwise the
message is refused. -/
structure Exact (deserialize : String → Option String) (m : Message) (accepted : String → Prop)
    (refused : Prop) : Prop where
  accepted_iff : ∀ r, accepted r ↔ wholeRequest deserialize m = some r
  refused_of : wholeRequest deserialize m = none → refused

/-- The two outcomes of a function that parses the message. -/
theorem exact_iff {maxSize : ℕ} {deserialize : String → Option String}
    (h : IgnoresPadding deserialize) {m : Message} {accepted : String → Prop} {refused : Prop}
    (haccepted : ∀ r, accepted r ↔ parseRequest maxSize deserialize m = .ok r)
    (hrefused : ∀ err, parseRequest maxSize deserialize m = .error err → refused) :
    Exact deserialize m accepted refused ↔ WholeDecides maxSize deserialize m := by
  rw [wholeDecides_iff]
  constructor
  · intro he
    ext r
    rw [← parseRequest_take h, ← haccepted, he.accepted_iff]
  · intro hsame
    refine ⟨?_, ?_⟩
    · intro r
      rw [haccepted, parseRequest_take h, hsame]
    · intro hnone
      cases hp : parseRequest maxSize deserialize m with
      | error err => exact hrefused err hp
      | ok r =>
        rw [parseRequest_take h, hsame, hnone] at hp
        cases hp

/-- `receive_and_parse_request` of the welcome thread returns `r`. -/
def Welcome.Accepts (P : Externals) (w : Welcome) (fd : RawFd) (m : Message) (r : String) : Prop :=
  (w.parse P fd true (.ok m)).pc = .dup fd r

/-- It answers with `MalformedRequest` and returns an error. -/
def Welcome.Refuses (P : Externals) (w : Welcome) (fd : RawFd) (m : Message) : Prop :=
  ∃ err, (w.parse P fd true (.ok m)).pc = .send fd .malformedRequest [err] none [fd]

/-- `receive_and_parse_request` of an environment thread returns `r`. -/
def Env.Accepts (P : Externals) (e : Env) (fd : RawFd) (rest : List Event) (m : Message)
    (r : String) : Prop :=
  (e.parse P fd rest true (.ok m)).pc = .openMutex fd r rest

/-- It answers with `MalformedRequest` and returns an error. -/
def Env.Refuses (P : Externals) (e : Env) (fd : RawFd) (rest : List Event) (m : Message) : Prop :=
  ∃ err, (e.parse P fd rest true (.ok m)).pc = .send fd .malformedRequest [err] rest

theorem Welcome.accepts_iff {P : Externals} {w : Welcome} {fd : RawFd} {m : Message} {r : String} :
    w.Accepts P fd m r ↔ P.welcomeRequest m = .ok r := by
  unfold Welcome.Accepts
  cases hp : P.welcomeRequest m with
  | ok name => simp [Welcome.parse, hp]
  | error err => simp [Welcome.parse, hp]

theorem Env.accepts_iff {P : Externals} {e : Env} {fd : RawFd} {rest : List Event} {m : Message}
    {r : String} : e.Accepts P fd rest m r ↔ P.environmentRequest m = .ok r := by
  unfold Env.Accepts
  cases hp : P.environmentRequest m with
  | ok name => simp [Env.parse, hp]
  | error err => simp [Env.parse, hp]

/-- **Framing.** With deserializers that ignore padding, each of the two functions
makes of a message exactly what the whole message says, if and only if the
message fits in its buffer or the part that fits says the same. -/
theorem framing_exact_iff (P : Externals) (hwelcome : IgnoresPadding P.deserializeWelcome)
    (henvironment : IgnoresPadding P.deserializeEnvironment) (m : Message) :
    (∀ w fd, Exact P.deserializeWelcome m (Welcome.Accepts P w fd m) (Welcome.Refuses P w fd m) ↔
      WholeDecides P.welcomeMaxSize P.deserializeWelcome m) ∧
    (∀ e fd rest, Exact P.deserializeEnvironment m (Env.Accepts P e fd rest m)
        (Env.Refuses P e fd rest m) ↔
      WholeDecides P.environmentMaxSize P.deserializeEnvironment m) := by
  refine ⟨?_, ?_⟩
  · intro w fd
    refine exact_iff hwelcome (fun r => Welcome.accepts_iff) ?_
    intro err herr
    refine ⟨err, ?_⟩
    simp only [Welcome.parse, Externals.welcomeRequest, herr, if_true]
  · intro e fd rest
    refine exact_iff henvironment (fun r => Env.accepts_iff) ?_
    intro err herr
    refine ⟨err, ?_⟩
    simp only [Env.parse, Externals.environmentRequest, herr, if_true]

/-- A deserializer that takes every nonempty text as a name, less the NULs at its
end. -/
def trimNuls (s : String) : Option String :=
  match (s.toList.reverse.dropWhile (· = '\x00')).reverse with
  | [] => none
  | cs => some (String.ofList cs)

theorem trimNuls_ignoresPadding : IgnoresPadding trimNuls := by
  intro s k
  have hdrop : ∀ cs : List Char, (List.replicate k '\x00' ++ cs).dropWhile (· = '\x00') =
      cs.dropWhile (· = '\x00') := by
    intro cs
    induction k with
    | zero => rfl
    | succ k ih =>
      rw [List.replicate_succ, List.cons_append, List.dropWhile_cons_of_pos (by simp)]
      exact ih
  simp only [trimNuls, nuls, String.toList_append, String.toList_ofList, List.reverse_append,
    List.reverse_replicate, hdrop]

/-- One-byte requests read by `trimNuls`. -/
def Externals.trimming : Externals :=
  { Externals.oneLetter with deserializeWelcome := trimNuls, deserializeEnvironment := trimNuls }

/-- With room for one byte, the message "ab" opens the environment or the mutex "a",
and not "ab", which the whole message names. -/
theorem framing_truncates :
    IgnoresPadding Externals.trimming.deserializeWelcome ∧
    IgnoresPadding Externals.trimming.deserializeEnvironment ∧
    (∃ w fd m, Welcome.Accepts Externals.trimming w fd m "a" ∧
      wholeRequest Externals.trimming.deserializeWelcome m = some "ab" ∧
      ¬ Exact Externals.trimming.deserializeWelcome m (Welcome.Accepts Externals.trimming w fd m)
        (Welcome.Refuses Externals.trimming w fd m)) ∧
    (∃ e fd rest m, Env.Accepts Externals.trimming e fd rest m "a" ∧
      wholeRequest Externals.trimming.deserializeEnvironment m = some "ab" ∧
      ¬ Exact Externals.trimming.deserializeEnvironment m (Env.Accepts Externals.trimming e fd rest m)
        (Env.Refuses Externals.trimming e fd rest m)) := by
  have hwhole : wholeRequest trimNuls [97, 98] = some "ab" := by decide
  refine ⟨trimNuls_ignoresPadding, trimNuls_ignoresPadding, ⟨.new, 7, [97, 98], ?_⟩,
    ⟨.new "e" 0, 7, [], [97, 98], ?_⟩⟩
  · have haccepts : Welcome.Accepts Externals.trimming .new 7 [97, 98] "a" := by
      rw [Welcome.accepts_iff]
      decide
    refine ⟨haccepts, hwhole, fun he => ?_⟩
    have h := (he.accepted_iff "a").mp haccepts
    exact absurd (hwhole.symm.trans h) (by decide)
  · have haccepts : Env.Accepts Externals.trimming (.new "e" 0) 7 [] [97, 98] "a" := by
      rw [Env.accepts_iff]
      decide
    refine ⟨haccepts, hwhole, fun he => ?_⟩
    have h := (he.accepted_iff "a").mp haccepts
    exact absurd (hwhole.symm.trans h) (by decide)

/-- A message that fits is read exactly. -/
theorem framing_exact_fits : Exact trimNuls [97] (Welcome.Accepts Externals.trimming .new 7 [97])
    (Welcome.Refuses Externals.trimming .new 7 [97]) :=
  ((framing_exact_iff Externals.trimming trimNuls_ignoresPadding trimNuls_ignoresPadding [97]).1
    .new 7).mpr (.inl (by decide))

end Garnd
