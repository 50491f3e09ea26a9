import KqlCompletion.Proofs.Json.RoundTrip

/-! Lists of strings as JSON. Who writes them may escape more than has to be, and may put blanks
behind the commas; they are read as the same list. A text that is itself written as a JSON string is
read as that text, whatever it is JSON of. -/
namespace KqlCompletion.Json

open Reader (isSpace)

/-- A list of strings as JSON, with a gap behind each comma. -/
def Writer.listing (direct : Char → Bool) (gap : List Char) : List Text → List Char
  | [] => ['[', ']']
  | text :: texts =>
    '[' :: string direct text ++
      (texts.flatMap (fun text => ',' :: (gap ++ string direct text)) ++ [']'])

def IsListing (texts : List Text) (written : String) : Prop :=
  ∃ direct gap, Writer.Clean direct ∧ (∀ c ∈ gap, isSpace (.char c) = true) ∧
    written = String.ofList (Writer.listing direct gap texts)

def IsQuoting (text : Text) (written : String) : Prop :=
  ∃ direct, Writer.Clean direct ∧ written = String.ofList (Writer.string direct text)

theorem Writer.clean_isAscii : Clean isAscii := by
  intro c ascii
  simp only [isAscii, Bool.and_eq_true, decide_eq_true_iff] at ascii
  exact ascii.1

theorem isQuoting_write (text : Text) : IsQuoting text (Value.write (.str text)) :=
  ⟨Writer.isAscii, Writer.clean_isAscii, rfl⟩

namespace Reader

variable {direct : Char → Bool} {gap : List Char} {frames : List Frame}

theorem leads_gap (blank : ∀ c ∈ gap, isSpace (.char c) = true) :
    Leads gap (Eq ⟨.value, frames⟩) (Eq ⟨.value, frames⟩) := by
  induction gap with
  | nil => exact .nil
  | cons c gap ih =>
    rw [List.forall_mem_cons] at blank
    have passed : Leads [c] (Eq ⟨.value, frames⟩) (Eq ⟨.value, frames⟩) :=
      .char fun position => by simp [step, blank.1]
    exact passed.append (ih blank.2)

theorem leads_restTexts (clean : Writer.Clean direct) (blank : ∀ c ∈ gap, isSpace (.char c) = true)
    (seen : List Value) {texts : List Text} (settled : ∀ text ∈ texts, text.Settled) :
    Leads (texts.flatMap (fun text => ',' :: (gap ++ Writer.string direct text)) ++ [']'])
      (Eq ⟨.after (.item seen), frames⟩)
      (Eq (finished (.arr (seen.reverse ++ texts.map .str)) frames)) := by
  induction texts generalizing seen with
  | nil => exact .char fun position => by simp [step, stepAfter, isSpace]
  | cons text texts ih =>
    rw [List.forall_mem_cons] at settled
    have comma : Leads [','] (Eq ⟨.after (.item seen), frames⟩)
        (Eq ⟨.value, .array seen :: frames⟩) := .char fun _ => rfl
    have opens (position : Nat) : step position (.char '"') ⟨.value, .array seen :: frames⟩ =
      .ok ⟨.quote { start := position, naming := none }, .array seen :: frames⟩ := rfl
    have others := ih (.str text :: seen) settled.2
    rw [List.reverse_cons, List.append_assoc, List.singleton_append] at others
    have item := (leads_gap blank).append ((leads_string clean settled.1 opens).append others)
    rw [List.flatMap_cons, List.append_assoc, List.cons_append, List.append_assoc]
    exact comma.append item

theorem leads_listing (clean : Writer.Clean direct) (blank : ∀ c ∈ gap, isSpace (.char c) = true)
    {texts : List Text} (settled : ∀ text ∈ texts, text.Settled) :
    Leads (Writer.listing direct gap texts) (Eq initial)
      (Eq (finished (.arr (texts.map .str)) [])) := by
  have opening : Leads ['['] (Eq initial) (Eq ⟨.firstItem, []⟩) := .char fun _ => rfl
  cases texts with
  | nil => exact opening.append (.char fun _ => rfl)
  | cons text texts =>
    rw [List.forall_mem_cons] at settled
    have readable : Readable 0 (.str text) := .str settled.1
    have reads := reads_of_readable clean readable [.array []] (by decide)
    have first := leads_firstItem (readable.begins direct) reads
    have others : Leads _ (Eq ⟨.after (.item [.str text]), []⟩) _ :=
      leads_restTexts clean blank [.str text] settled.2
    exact opening.append (first.append others)

end Reader

theorem ofText_of_read {text : Text} {v : Value} (unmarked : text.head? ≠ some (.char '\uFEFF'))
    (readAs : read text = .ok v) : ofText text = .ok v := by
  rw [ofText]
  simp only [beq_iff_eq, if_neg unmarked, readAs]
  rfl

variable {texts : List Text} {text : Text} {written : String}

theorem IsListing.ofText (listing : IsListing texts written)
    (settled : ∀ text ∈ texts, text.Settled) :
    ofText written = .ok (.arr (texts.map .str)) := by
  obtain ⟨direct, gap, clean, blank, rfl⟩ := listing
  rw [Text.of, String.toList_ofList]
  refine ofText_of_read ?_ ?_
  · cases texts <;> simp [Writer.listing]
  · obtain ⟨_, rfl, ran⟩ := Reader.leads_listing clean blank settled 0 _ rfl
    have ended := ran []
    rw [List.append_nil] at ended
    rw [read, ended]
    rfl

theorem IsQuoting.ofText (quoting : IsQuoting text written) (settled : text.Settled) :
    ofText written = .ok (.str text) := by
  obtain ⟨direct, clean, rfl⟩ := quoting
  rw [Text.of, String.toList_ofList]
  refine ofText_of_read (by simp [Writer.string]) ?_
  have readable : Reader.Readable 0 (.str text) := .str settled
  exact read_value clean readable (by decide)

end KqlCompletion.Json
