import KqlCompletion.Json.Reader
import KqlCompletion.Json.Writer
import KqlCompletion.Proofs.Text.Encoding
import Mathlib.Data.List.Chain

/-! Values without numbers are read as they were written, whichever characters stand for themselves
in the text, unless both halves of a surrogate pair stand side by side in a string: those come back
as one character. Reading goes on where a value may be followed by more, so a text written in front
of another one leaves the reader as it would be had the value been read from any other spelling. -/
namespace KqlCompletion

namespace Text

/-- No first half of a surrogate pair stands directly in front of a second one. -/
def Settled (text : Text) : Prop :=
  text.IsChain fun p q => ¬ (Wide.isHigh p.toNat = true ∧ Wide.isLow q.toNat = true)

theorem isHigh_toNat (c : Char) : Wide.isHigh c.toNat = false := by
  have scalar := toNat_scalar c
  simp [Wide.isHigh]
  omega

theorem isLow_toNat (c : Char) : Wide.isLow c.toNat = false := by
  have scalar := toNat_scalar c
  simp [Wide.isLow]
  omega

theorem settled_of (written : String) : Settled (of written) := by
  rw [Settled, of, List.isChain_map]
  exact List.isChain_iff_getElem.2 fun _ _ => by simp [isHigh_toNat]

theorem settled_of_isSound {text : Text} (sound : isSound text = true) : Settled text := by
  obtain ⟨written, rfl⟩ := isSound_iff.1 sound
  exact settled_of written

end Text

namespace Json

open Text (CodePoint hexPadded hexValue? isLow_toNat lowerHex)

def Writer.Clean (direct : Char → Bool) : Prop := ∀ c, direct c = true → 0x20 ≤ c.toNat

theorem Writer.clean_isPlain : Clean isPlain := fun c plain => by simpa [isPlain] using plain

namespace Members

theorem insert_of_new {name : Text} {members : Members} (value : Value)
    (new : ∀ member ∈ members, member.1 ≠ name) :
    insert name value members = members ++ [(name, value)] := by
  induction members with
  | nil => rfl
  | cons member members ih =>
    rw [List.forall_mem_cons] at new
    simp [insert, new.1, ih new.2]

end Members

namespace Reader

/-- Reading `text` leads from every state of the one kind to a state of the other. -/
def Leads (text : List Char) (before after : State → Prop) : Prop :=
  ∀ position state, before state → ∃ next, after next ∧
    ∀ rest, run position (text.map .char ++ rest) state = run (position + text.length) rest next

variable {before middle after : State → Prop} {text others : List Char} {c : Char}

theorem Leads.nil : Leads [] before before :=
  fun _ state holds => ⟨state, holds, fun _ => rfl⟩

theorem Leads.append (first : Leads text before middle) (second : Leads others middle after) :
    Leads (text ++ others) before after := by
  intro position state holds
  obtain ⟨next, between, ran⟩ := first position state holds
  obtain ⟨last, reached, ranOn⟩ := second (position + text.length) next between
  refine ⟨last, reached, fun rest => ?_⟩
  rw [List.map_append, List.append_assoc, ran, ranOn, List.length_append, Nat.add_assoc]

theorem Leads.one
    (steps : ∀ position state, before state → ∃ next, after next ∧
      step position (.char c) state = .ok next) : Leads [c] before after := by
  intro position state holds
  obtain ⟨next, reached, stepped⟩ := steps position state holds
  refine ⟨next, reached, fun rest => ?_⟩
  rw [List.map_singleton, List.singleton_append, run, stepped]
  rfl

/-- From one state to another, wherever the character stands. -/
theorem Leads.char {state next : State}
    (steps : ∀ position, step position (.char c) state = .ok next) :
    Leads [c] (Eq state) (Eq next) := by
  refine .one ?_
  rintro position _ rfl
  exact ⟨next, rfl, steps position⟩

/-! ### Strings -/

/-- No escape is begun; `text` is what is read of a string, last first, with the half that still
waits for another one. -/
structure Quote.Holds (q : Quote) (naming : Option Members) (text : Text) : Prop where
  naming : q.naming = naming
  text : q.flush.text = text
  high : ∀ high, q.high = some high → Text.Wide.isHigh high = true
  escape : q.escape = .none

def Inside (naming : Option Members) (text : Text) (frames : List Frame) (state : State) :
    Prop :=
  ∃ q : Quote, q.Holds naming text ∧ state = ⟨.quote q, frames⟩

variable {naming : Option Members} {chars : Text} {frames : List Frame} {q : Quote}

@[simp] theorem Quote.push_escape (q : Quote) (escape : Escape) (c : CodePoint) :
    Quote.push { q with escape } c = q.push c := by
  obtain ⟨start, naming, text, high, _, ending⟩ := q
  cases high <;> rfl

@[simp] theorem Quote.pushUnit_escape (q : Quote) (escape : Escape) (mark unit : Nat) :
    Quote.pushUnit { q with escape } mark unit = q.pushUnit mark unit := by
  obtain ⟨start, naming, text, high, _, ending⟩ := q
  cases first : Text.Wide.isHigh unit <;> cases second : Text.Wide.isLow unit <;> cases high <;>
    simp [pushUnit, push, flush, first, second]

theorem hexValue?_lowerHex : ∀ n < 16, hexValue? (lowerHex n) = some n := by decide

theorem run_codeEscape (q : Quote) (position : Nat) (rest : Text) {unit : Nat}
    (small : unit < 0x10000) (idle : q.escape = .none) :
    run position ((Writer.codeEscape unit).map .char ++ rest) ⟨.quote q, frames⟩ =
      run (position + 6) rest ⟨.quote (q.pushUnit (position + 1) unit), frames⟩ := by
  have digit (n : Nat) : hexValue? (lowerHex (n % 16)) = some (n % 16) :=
    hexValue?_lowerHex _ (Nat.mod_lt _ (by decide))
  have value : ((unit / 16 / 16 / 16 % 16 * 16 + unit / 16 / 16 % 16) * 16 + unit / 16 % 16) * 16 +
      unit % 16 = unit := by omega
  simp [Writer.codeEscape, hexPadded, run, step, stepQuote, CodePoint.char?, idle, digit, value]

@[simp] theorem Quote.flush_naming (q : Quote) : q.flush.naming = q.naming := by
  fun_cases flush q <;> rfl

@[simp] theorem Quote.flush_high (q : Quote) : q.flush.high = none := by
  fun_cases flush q <;> simp_all

theorem Quote.flush_text (q : Quote) :
    q.flush.text = (q.high.map CodePoint.ofNat).toList ++ q.text := by
  fun_cases flush q <;> simp_all

theorem Quote.flush_of_none (idle : q.high = none) : q.flush = q := by
  rw [flush, idle]

theorem Quote.Holds.push (holds : q.Holds naming chars) (p : CodePoint) :
    (q.push p).Holds naming (p :: chars) := by
  obtain ⟨named, spelled, -, -⟩ := holds
  refine ⟨?_, ?_, ?_, rfl⟩
  · simp [Quote.push, named]
  · rw [Quote.flush, Quote.push, Quote.flush_high, spelled]
  · simp [Quote.push]

/-- The second half of a pair has to have something else than the first one in front of it. -/
theorem Quote.Holds.pushUnit (holds : q.Holds naming chars) (mark : Nat) {p : CodePoint}
    (apart : ∀ last ∈ chars.head?,
      ¬ (Text.Wide.isHigh last.toNat = true ∧ Text.Wide.isLow p.toNat = true)) :
    (q.pushUnit mark p.toNat).Holds naming (p :: chars) := by
  have ⟨named, spelled, waiting, _⟩ := holds
  have whole : CodePoint.ofNat p.toNat = p := CodePoint.ofNat_toNat p
  have alone (high : Nat) (waits : q.high = some high) : Text.Wide.isLow p.toNat = false := by
    have isHigh := waiting high waits
    have first : chars.head? = some (.ofNat high) := by simp [← spelled, Quote.flush, waits]
    have code : (CodePoint.ofNat high).toNat = high := by
      refine CodePoint.toNat_ofNat ?_
      simp only [Text.Wide.isHigh, Bool.and_eq_true, decide_eq_true_iff] at isHigh
      omega
    simpa [code, isHigh] using apart _ first
  have single : q.pushUnit mark p.toNat =
      { (if Text.Wide.isHigh p.toNat then { q.flush with high := some p.toNat } else q.push p) with
        escape := .none, ending := some mark } := by
    cases waits : q.high with
    | none => simp [Quote.pushUnit, waits, whole]
    | some high => simp [Quote.pushUnit, waits, alone high waits, whole]
  rw [single]
  split
  · next isHigh =>
    refine ⟨by simp [named], ?_, by simpa using isHigh, rfl⟩
    rw [Quote.flush_text, ← spelled]
    simp [whole]
  · have ⟨named, spelled, waiting, _⟩ := holds.push p
    refine ⟨named, ?_, waiting, rfl⟩
    rw [Quote.flush_text] at spelled ⊢
    exact spelled

/-- The two halves of a character beyond U+FFFF. -/
theorem Quote.Holds.pushPair (holds : q.Holds naming chars) (first second : Nat) {c : Char}
    (wide : 0x10000 ≤ c.toNat) :
    ((q.pushUnit first (0xD800 + (c.toNat - 0x10000) / 0x400)).pushUnit second
      (0xDC00 + (c.toNat - 0x10000) % 0x400)).Holds naming (.char c :: chars) := by
  have scalar := Text.toNat_scalar c
  have high : Text.Wide.isHigh (0xD800 + (c.toNat - 0x10000) / 0x400) = true := by
    simp [Text.Wide.isHigh]
    omega
  have low : Text.Wide.isLow (0xDC00 + (c.toNat - 0x10000) % 0x400) = true := by
    simp [Text.Wide.isLow]
    omega
  have joined : Text.Wide.join (0xD800 + (c.toNat - 0x10000) / 0x400)
      (0xDC00 + (c.toNat - 0x10000) % 0x400) = c := by
    have whole : 0x10000 + (c.toNat - 0x10000) / 0x400 * 0x400 + (c.toNat - 0x10000) % 0x400 =
        c.toNat := by omega
    rw [Text.Wide.join, Nat.add_sub_cancel_left, Nat.add_sub_cancel_left, whole, Char.ofNat_toNat]
  have notLow : Text.Wide.isLow (0xD800 + (c.toNat - 0x10000) / 0x400) = false := by
    simp [Text.Wide.isLow]
    omega
  obtain ⟨named, spelled, -, -⟩ := holds
  -- the first half waits, whatever the string ended with before
  have waits : q.pushUnit first (0xD800 + (c.toNat - 0x10000) / 0x400) =
      { q.flush with
        high := some (0xD800 + (c.toNat - 0x10000) / 0x400), escape := .none
        ending := some first } := by
    cases before : q.high <;> simp [Quote.pushUnit, high, notLow, before]
  rw [waits]
  refine ⟨?_, ?_, ?_, rfl⟩ <;>
    simp [Quote.pushUnit, Quote.push, Quote.flush_of_none, low, joined, named, spelled]

variable {direct : Char → Bool}

theorem simpleEscape?_of_shortEscape? {letter : Char}
    (short : Writer.shortEscape? c = some letter) :
    simpleEscape? (.char letter) = some c ∧ letter ≠ 'u' := by
  revert short
  fun_cases Writer.shortEscape? c <;> rintro ⟨⟩ <;> exact ⟨rfl, by decide⟩

theorem leads_character (clean : Writer.Clean direct) (c : Char) :
    Leads (Writer.character direct c) (Inside naming chars frames)
      (Inside naming (.char c :: chars) frames) := by
  rintro position state ⟨q, holds, rfl⟩
  have idle := holds.escape
  rw [Writer.character]
  split
  · next letter short =>
    obtain ⟨simple, notCode⟩ := simpleEscape?_of_shortEscape? short
    refine ⟨_, ⟨_, holds.push c, rfl⟩, fun rest => ?_⟩
    simp [run, step, stepQuote, idle, simple, notCode]
  next plain =>
  dsimp only
  split
  · next own =>
    have notQuote : c ≠ '"' := by
      rintro rfl
      cases plain
    have notEscape : c ≠ '\\' := by
      rintro rfl
      cases plain
    refine ⟨_, ⟨_, holds.push c, rfl⟩, fun rest => ?_⟩
    simp [run, step, stepQuote, idle, notQuote, notEscape, Nat.not_lt.2 (clean c own)]
  split
  · next narrow =>
    have apart : ∀ last ∈ chars.head?, ¬ (Text.Wide.isHigh last.toNat = true ∧
        Text.Wide.isLow (CodePoint.char c).toNat = true) := by simp [isLow_toNat]
    exact ⟨_, ⟨_, holds.pushUnit (position + 1) apart, rfl⟩,
      fun rest => run_codeEscape q position rest narrow idle⟩
  · next wide =>
    have wide : 0x10000 ≤ c.toNat := Nat.le_of_not_lt wide
    have scalar := Text.toNat_scalar c
    refine ⟨_, ⟨_, holds.pushPair (position + 1) (position + 6 + 1) wide, rfl⟩, fun rest => ?_⟩
    rw [List.map_append, List.append_assoc, run_codeEscape q position _ (by omega) idle,
      run_codeEscape _ (position + 6) _ (by omega) rfl]
    rfl

theorem leads_codePoint (clean : Writer.Clean direct) {p : CodePoint}
    (apart : ∀ last ∈ chars.head?,
      ¬ (Text.Wide.isHigh last.toNat = true ∧ Text.Wide.isLow p.toNat = true)) :
    Leads (Writer.codePoint direct p) (Inside naming chars frames)
      (Inside naming (p :: chars) frames) := by
  cases p with
  | char c => exact leads_character clean c
  | half offset =>
    rintro position state ⟨q, holds, rfl⟩
    have narrow : 0xD800 + offset.val < 0x10000 := by omega
    exact ⟨_, ⟨_, holds.pushUnit (position + 1) apart, rfl⟩,
      fun rest => run_codeEscape q position rest narrow holds.escape⟩

theorem leads_codePoints (clean : Writer.Clean direct) {text : Text}
    (settled : Text.Settled (chars.reverse ++ text)) :
    Leads (text.flatMap (Writer.codePoint direct)) (Inside naming chars frames)
      (Inside naming (text.reverse ++ chars) frames) := by
  induction text generalizing chars with
  | nil => exact .nil
  | cons p text ih =>
    have apart := (List.isChain_append.1 settled).2.2
    rw [List.flatMap_cons, List.reverse_cons, List.append_assoc]
    refine (leads_codePoint clean fun last member => ?_).append (ih (by simpa using settled))
    exact apart last (by simpa using member) p rfl

/-- From the opening quote to the closing one. -/
theorem leads_string (clean : Writer.Clean direct) {next : Next} {text : Text}
    (settled : text.Settled)
    (opens : ∀ position, step position (.char '"') ⟨next, frames⟩ =
      .ok ⟨.quote { start := position, naming := naming }, frames⟩) :
    Leads (Writer.string direct text) (Eq ⟨next, frames⟩)
      (Eq (match naming with
        | some members => ⟨.colon members text, frames⟩
        | none => finished (.str text) frames)) := by
  have opening : Leads ['"'] (Eq ⟨next, frames⟩) (Inside naming [] frames) := by
    refine .one ?_
    rintro position _ rfl
    exact ⟨_, ⟨_, ⟨rfl, rfl, by simp, rfl⟩, rfl⟩, opens position⟩
  have body : Leads (text.flatMap (Writer.codePoint direct)) (Inside naming [] frames)
      (Inside naming (text.reverse ++ []) frames) := leads_codePoints clean settled
  refine opening.append (body.append (.one ?_))
  rintro position _ ⟨q, ⟨named, spelled, -, idle⟩, rfl⟩
  have whole : q.flush.text.reverse = text := by simp [spelled]
  refine ⟨_, rfl, ?_⟩
  simp only [step, stepQuote, idle]
  simp [Quote.close, whole, named]
  cases naming <;> rfl

/-! ### Values -/

/-- A value without numbers and with settled texts, whose containers are nested up to `depth` and
name no member twice. -/
inductive Readable : Nat → Value → Prop
  | null {depth : Nat} : Readable depth .null
  | bool {depth : Nat} (b : Bool) : Readable depth (.bool b)
  | str {depth : Nat} {text : Text} (settled : text.Settled) : Readable depth (.str text)
  | arr {depth : Nat} {items : List Value} (each : ∀ item ∈ items, Readable depth item) :
    Readable (depth + 1) (.arr items)
  | obj {depth : Nat} {members : Members} (names : (members.map (·.1)).Nodup)
    (settled : ∀ member ∈ members, member.1.Settled)
    (each : ∀ member ∈ members, Readable depth member.2) : Readable (depth + 1) (.obj members)

theorem Readable.of_isSound {depth : Nat} {text : Text} (sound : text.isSound = true) :
    Readable depth (.str text) :=
  .str (Text.settled_of_isSound sound)

/-- What a value without numbers begins with. -/
def firsts : List Char := ['n', 't', 'f', '"', '[', '\x7b']

theorem Readable.begins (direct : Char → Bool) {depth : Nat} {v : Value}
    (readable : Readable depth v) :
    ∃ c ∈ firsts, ∃ text, Writer.value direct v = c :: text := by
  cases readable with
  | null => exact ⟨'n', by decide, _, rfl⟩
  | bool b =>
    cases b with
    | false => exact ⟨'f', by decide, _, rfl⟩
    | true => exact ⟨'t', by decide, _, rfl⟩
  | str text => exact ⟨'"', by decide, _, rfl⟩
  | @arr _ items each =>
    refine ⟨'[', by decide, ?_⟩
    cases items <;> exact ⟨_, rfl⟩
  | @obj _ members names settled each =>
    refine ⟨'\x7b', by decide, ?_⟩
    cases members <;> exact ⟨_, rfl⟩

/-- Where a value may stand, its text is read as the value. -/
def Reads (direct : Char → Bool) (frames : List Frame) (v : Value) : Prop :=
  Leads (Writer.value direct v) (Eq ⟨.value, frames⟩) (Eq (finished v frames))

theorem leads_restItems (seen : List Value) {items : List Value}
    (each : ∀ item ∈ items, ∀ seen, Reads direct (.array seen :: frames) item) :
    Leads (Writer.restItems direct items) (Eq ⟨.after (.item seen), frames⟩)
      (Eq (finished (.arr (seen.reverse ++ items)) frames)) := by
  induction items generalizing seen with
  | nil =>
    exact .char fun position => by simp [step, stepAfter, isSpace]
  | cons item items ih =>
    rw [List.forall_mem_cons] at each
    have comma : Leads [','] (Eq ⟨.after (.item seen), frames⟩)
        (Eq ⟨.value, .array seen :: frames⟩) := .char fun _ => rfl
    have others := ih (item :: seen) each.2
    rw [List.reverse_cons, List.append_assoc, List.singleton_append] at others
    exact comma.append ((each.1 seen).append others)

theorem leads_member (clean : Writer.Clean direct) {next : Next}
    {members : Members} {name : Text} {v : Value} (settled : name.Settled)
    (new : ∀ member ∈ members, member.1 ≠ name)
    (opens : ∀ position, step position (.char '"') ⟨next, frames⟩ =
      .ok ⟨.quote { start := position, naming := some members }, frames⟩)
    (reads : Reads direct (.object members name :: frames) v) :
    Leads (Writer.string direct name ++ ':' :: Writer.value direct v) (Eq ⟨next, frames⟩)
      (Eq ⟨.after (.member (members ++ [(name, v)])), frames⟩) := by
  have colon : Leads [':'] (Eq ⟨.colon members name, frames⟩)
      (Eq ⟨.value, .object members name :: frames⟩) := .char fun _ => rfl
  rw [← Members.insert_of_new v new]
  exact (leads_string clean settled opens).append (colon.append reads)

theorem leads_restMembers (clean : Writer.Clean direct)
    (seen : Members) {members : Members} (names : ((seen ++ members).map (·.1)).Nodup)
    (settled : ∀ member ∈ members, member.1.Settled)
    (each : ∀ member ∈ members, ∀ seen name,
      Reads direct (.object seen name :: frames) member.2) :
    Leads (Writer.restMembers direct members) (Eq ⟨.after (.member seen), frames⟩)
      (Eq (finished (.obj (seen ++ members)) frames)) := by
  induction members generalizing seen with
  | nil =>
    exact .char fun position => by simp [step, stepAfter, isSpace]
  | cons member members ih =>
    obtain ⟨name, v⟩ := member
    rw [List.forall_mem_cons] at each settled
    have comma : Leads [','] (Eq ⟨.after (.member seen), frames⟩) (Eq ⟨.name seen, frames⟩) :=
      .char fun _ => rfl
    have new : ∀ member ∈ seen, member.1 ≠ name := by
      rintro member listed rfl
      rw [List.map_append, List.nodup_append] at names
      exact names.2.2 _ (List.mem_map_of_mem listed) _ List.mem_cons_self rfl
    have opens (position : Nat) : step position (.char '"') ⟨.name seen, frames⟩ =
      .ok ⟨.quote { start := position, naming := some seen }, frames⟩ := rfl
    have others := ih (seen ++ [(name, v)]) (by simpa using names) settled.2 each.2
    rw [List.append_assoc, List.singleton_append] at others
    have written : Writer.restMembers direct ((name, v) :: members) =
        ',' :: ((Writer.string direct name ++ ':' :: Writer.value direct v) ++
          Writer.restMembers direct members) := by
      simp [Writer.restMembers]
    rw [written]
    exact comma.append ((leads_member clean settled.1 new opens (each.1 seen name)).append others)

/-- The first item stands where the list might have ended as well. -/
theorem leads_firstItem {v : Value}
    (begins : ∃ c ∈ firsts, ∃ text, Writer.value direct v = c :: text)
    (reads : Reads direct (.array [] :: frames) v) :
    Leads (Writer.value direct v) (Eq ⟨.firstItem, frames⟩)
      (Eq ⟨.after (.item [v]), frames⟩) := by
  obtain ⟨c, listed, text, written⟩ := begins
  have same (position : Nat) : step position (.char c) ⟨.firstItem, frames⟩ =
      step position (.char c) ⟨.value, .array [] :: frames⟩ := by
    simp only [firsts, List.mem_cons, List.not_mem_nil, or_false] at listed
    rcases listed with rfl | rfl | rfl | rfl | rfl | rfl <;> rfl
  rintro position _ rfl
  obtain ⟨_, rfl, ran⟩ := reads position _ rfl
  refine ⟨_, rfl, fun rest => ?_⟩
  have ran := ran rest
  rw [written, List.map_cons, List.cons_append, run] at ran ⊢
  rw [same, ran]
  rfl

theorem reads_of_readable (clean : Writer.Clean direct) {depth : Nat} {v : Value}
    (readable : Readable depth v) (frames : List Frame)
    (room : frames.length + depth ≤ nestingLimit) : Reads direct frames v := by
  -- `frames` are the containers around the value: each of them takes one from the depth left
  induction readable generalizing frames with
  | null =>
    rintro position _ rfl
    exact ⟨_, rfl, fun rest => rfl⟩
  | bool b =>
    rintro position _ rfl
    cases b <;> exact ⟨_, rfl, fun rest => rfl⟩
  | str settled =>
    have opens (position : Nat) : step position (.char '"') ⟨.value, frames⟩ =
      .ok ⟨.quote { start := position, naming := none }, frames⟩ := rfl
    exact leads_string clean settled opens
  | @arr depth items each ih =>
    have opening : Leads ['['] (Eq ⟨.value, frames⟩) (Eq ⟨.firstItem, frames⟩) := by
      refine .char fun position => ?_
      simp [step, isSpace, beginValue, opened]
      omega
    have inner (seen : List Value) :
        (Frame.array seen :: frames).length + depth ≤ nestingLimit := by
      rw [List.length_cons]
      omega
    cases items with
    | nil =>
      exact opening.append (.char fun _ => rfl)
    | cons item items =>
      rw [List.forall_mem_cons] at each ih
      have first := leads_firstItem (each.1.begins direct) (ih.1 _ (inner []))
      have others := leads_restItems [item]
        fun item listed seen => ih.2 item listed _ (inner seen)
      exact opening.append (first.append others)
  | @obj depth members names settled each ih =>
    have opening : Leads ['\x7b'] (Eq ⟨.value, frames⟩) (Eq ⟨.firstName, frames⟩) := by
      refine .char fun position => ?_
      simp [step, isSpace, beginValue, opened]
      omega
    have inner (seen : Members) (name : Text) :
        (Frame.object seen name :: frames).length + depth ≤ nestingLimit := by
      rw [List.length_cons]
      omega
    cases members with
    | nil =>
      exact opening.append (.char fun _ => rfl)
    | cons member members =>
      obtain ⟨name, v⟩ := member
      rw [List.forall_mem_cons] at ih settled
      have opens (position : Nat) : step position (.char '"') ⟨.firstName, frames⟩ =
        .ok ⟨.quote { start := position, naming := some [] }, frames⟩ := rfl
      have new : ∀ member ∈ ([] : Members), member.1 ≠ name := by simp
      have first := leads_member clean settled.1 new opens (ih.1 _ (inner [] name))
      have others := leads_restMembers clean [(name, v)] (by simpa using names) settled.2
        fun member listed seen name => ih.2 member listed _ (inner seen name)
      have written : Writer.value direct (.obj ((name, v) :: members)) =
          '\x7b' :: ((Writer.string direct name ++ ':' :: Writer.value direct v) ++
            Writer.restMembers direct members) := by
        simp [Writer.value]
      unfold Reads
      rw [written]
      exact opening.append (first.append others)

end Reader

open Reader

variable {direct : Char → Bool} {depth : Nat} {v : Value}

/-- A value without numbers is read as it was written. -/
theorem read_value (clean : Writer.Clean direct) (readable : Readable depth v)
    (room : depth ≤ nestingLimit) : read ((Writer.value direct v).map .char) = .ok v := by
  obtain ⟨_, rfl, ran⟩ := reads_of_readable clean readable [] (by simpa using room) 0 _ rfl
  have ended := ran []
  rw [List.append_nil] at ended
  rw [read, initial, ended]
  rfl

/-! ### Bytes -/

def Solid (text : List Char) : Prop := ∀ c ∈ text, c.toNat ≠ 0

@[simp] theorem solid_append {text others : List Char} :
    Solid (text ++ others) ↔ Solid text ∧ Solid others := List.forall_mem_append

@[simp] theorem solid_cons {c : Char} {text : List Char} :
    Solid (c :: text) ↔ c.toNat ≠ 0 ∧ Solid text := List.forall_mem_cons

@[simp] theorem solid_nil : Solid [] := List.forall_mem_nil _

@[simp] theorem solid_hexPadded (width n : Nat) : Solid (hexPadded width n) := by
  have digit : ∀ n < 16, (lowerHex n).toNat ≠ 0 := by decide
  induction width generalizing n with
  | zero => exact solid_nil
  | succ width ih => simp [hexPadded, ih, digit _ (Nat.mod_lt n (by decide))]

theorem solid_string (clean : Writer.Clean direct) (text : Text) :
    Solid (Writer.string direct text) := by
  have character (c : Char) : Solid (Writer.character direct c) := by
    rw [Writer.character]
    split
    · next letter short =>
      have solid : letter.toNat ≠ 0 := by
        revert short
        fun_cases Writer.shortEscape? c <;> rintro ⟨⟩ <;> decide
      simp [solid]
    · dsimp only
      split
      · next own =>
        have := clean c own
        rw [solid_cons]
        exact ⟨by omega, solid_nil⟩
      split <;> simp [Writer.codeEscape]
  have body : Solid (text.flatMap (Writer.codePoint direct)) := by
    intro c listed
    obtain ⟨d, -, spelled⟩ := List.mem_flatMap.1 listed
    cases d with
    | char d => exact character d c spelled
    | half offset =>
      have escape : Solid (Writer.codeEscape (0xD800 + offset)) := by simp [Writer.codeEscape]
      exact escape c spelled
  simp [Writer.string, body]

theorem Reader.Readable.solid (clean : Writer.Clean direct)
    (readable : Readable depth v) : Solid (Writer.value direct v) := by
  have items {items : List Value} (each : ∀ item ∈ items, Solid (Writer.value direct item)) :
      Solid (Writer.restItems direct items) := by
    induction items with
    | nil => simp [Writer.restItems]
    | cons item items ih =>
      rw [List.forall_mem_cons] at each
      simp [Writer.restItems, each.1, ih each.2]
  have members {members : Members}
      (each : ∀ member ∈ members, Solid (Writer.value direct member.2)) :
      Solid (Writer.restMembers direct members) := by
    induction members with
    | nil => simp [Writer.restMembers]
    | cons member members ih =>
      rw [List.forall_mem_cons] at each
      simp [Writer.restMembers, solid_string clean, each.1, ih each.2]
  induction readable with
  | null => simp [Writer.value]
  | bool b => cases b <;> simp [Writer.value]
  | str text => exact solid_string clean _
  | @arr depth all each ih =>
    cases all with
    | nil => simp [Writer.value]
    | cons item others =>
      rw [List.forall_mem_cons] at ih
      simp [Writer.value, ih.1, items ih.2]
  | @obj depth all names settled each ih =>
    cases all with
    | nil => simp [Writer.value]
    | cons member others =>
      rw [List.forall_mem_cons] at ih
      simp [Writer.value, solid_string clean, ih.1, members ih.2]

/-- What is sent is read as it was meant. -/
theorem ofBytes_bytes (readable : Readable depth v) (room : depth ≤ nestingLimit) :
    ofBytes v.bytes = .ok v := by
  have clean := Writer.clean_isPlain
  obtain ⟨c, listed, text, written⟩ := readable.begins Writer.isPlain
  have solid := readable.solid clean
  have back := read_value clean readable room
  rw [written] at solid back
  have ascii : ∀ c ∈ firsts, c.toNat < 0x80 := by simp [firsts]
  rw [Value.bytes, written, ofBytes, Text.decodeDetected_encode (ascii c listed) solid]
  dsimp only
  rw [back]
  rfl

end Json
end KqlCompletion
