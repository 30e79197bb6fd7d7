/-
# Due dates in plan files

A due date may be typed in a plan file as it is, or between quotes.  It is read in two ways then:
by the rules of TOML, which take what they need of the moment, write it anew and have that read as
an instant, or as the text of an instant at once.  Both give the same instant of every moment with
a zone, and none of a moment without one.
-/
import PaymentPlans.Proofs.Instant.Spelling
import PaymentPlans.Proofs.PlanFile.Open
import PaymentPlans.Proofs.Toml.Typed

namespace PaymentPlans

namespace PlanFile

open Toml (EndsEntry EndsMoment Entries Key Moment OpensListed Place SpellsMoment StartsEntry
  Statement Takes Types Value WholeLines inQuotes scanBehindListed scanBehindNamed scanLabel
  scanNamed)

/-! ## Files with an open due date -/

/-- What may stand before and behind a due date: it is typed in a line behind the header of an
installment, or between the braces of an installment in a list between brackets. -/
inductive Opens : List Char → List Char → Prop where
  | headed {above below : List Char} {before entries behind : List Statement}
      (start : StartsEntry ⟨[], dueField⟩ (before ++ .listHeader ⟨[], listField⟩ :: entries) above)
      (hentries : ∀ s ∈ entries, s.IsEntry) (hend : EndsEntry behind below) : Opens above below
  | bracketed {above left right rest : List Char} {before after : List Statement}
      {first others : List Value} {members behind : List (Key × Value)}
      (start : StartsEntry ⟨[], listField⟩ before above) (hbefore : ∀ s ∈ before, s.IsEntry)
      (list : OpensListed ⟨[], dueField⟩ first members behind others rest left right)
      (hend : EndsEntry after rest) : Opens (above ++ left) right

lemma Opens.endsMoment {above below : List Char} (h : Opens above below) : EndsMoment below := by
  cases h with
  | headed _ _ hend =>
    obtain ⟨hline, -⟩ := hend
    exact Toml.endsMoment_of_scanLineEnd hline
  | bracketed _ _ list _ =>
    obtain ⟨-, -, -, -, -, htable, -⟩ := list
    exact Toml.endsMoment_of_scanBehindNamed htable

/-- **The document of a file with an open due date** is refused whatever is typed there, or it has
one place for it. -/
lemma Opens.exists_document {above below : List Char} (h : Opens above below) :
    ∃ document : Value → Option Entries,
      ((∀ value, value.IsPlain → document value = none) ∨
        ∃ p : Place listField dueField, ∀ value, value.IsPlain →
          document value = some (p.fill value)) ∧
      ∀ text value, Types text value below →
        Toml.readStatementsFuel ((above ++ (text ++ below)).length + 1) (above ++ (text ++ below)) >>=
          Toml.document? = document value := by
  have hlength : ∀ text below : List Char, below.length ≤ (text ++ below).length := fun _ _ => by
    rw [List.length_append]
    exact Nat.le_add_left _ _
  cases h with
  | @headed _ _ before entries behind start hentries hend =>
    refine ⟨_, Toml.document?_open before hentries behind listField dueField,
      fun text value htext => ?_⟩
    have hread : Toml.scanValue Toml.maxDepth (Toml.skipGap (text ++ below)) =
        (some value).map fun value => (value, below) := htext _
    rw [start.readStatementsFuel hread (hlength text below) hend, Option.map_some,
      List.append_assoc]
    rfl
  | @bracketed above left _ rest before after first others members behind start hbefore hlist
      hend =>
    let list (entries : Entries) : Value := .list (first ++ .table .closed entries :: others)
    refine ⟨fun value => (Toml.inlineTable? (members ++ (⟨[], dueField⟩, value) :: behind)).bind
      fun entries => Toml.document? (before ++ .entry ⟨[], listField⟩ (list entries) :: after),
      ?_, fun text value htext => ?_⟩ <;> dsimp only
    · rcases Toml.inlineTable?_open members behind dueField with hnone | ⟨c, hc⟩
      · refine .inl fun value hvalue => ?_
        rw [hnone value hvalue, Option.bind_none]
      · refine (Toml.document?_open_list hbefore first .closed c others after listField).imp
          (fun hnone value hvalue => ?_) fun ⟨p, hp⟩ => ⟨p, fun value hvalue => ?_⟩
        · rw [hc value hvalue, Option.bind_some, hnone value hvalue]
        · rw [hc value hvalue, Option.bind_some, hp value hvalue]
    · have hvalue := hlist.scanValue (htext 77) (hlength text below)
      have hshort : rest.length ≤ (left ++ (text ++ below)).length := by
        obtain ⟨-, -, -, -, -, -, -⟩ := hlist
        simp only [List.length_append]
        omega
      rw [List.append_assoc, start.readStatementsFuel hvalue hshort hend]
      cases Toml.inlineTable? (members ++ (⟨[], dueField⟩, value) :: behind) <;> rfl

/-- A file with an open due date: what stands before it, and what stands behind it. -/
structure Form where
  above : String
  below : String

/-- The file with something typed for the due date. -/
def Form.fill (f : Form) (typed : String) : String := f.above ++ typed ++ f.below

/-- What is typed stands for the due date of an installment. -/
def Form.IsOpen (f : Form) : Prop := Opens (Toml.skipMark f.above.toList) f.below.toList

lemma skipMark_append {cs : List Char} (h : Toml.skipMark cs ≠ []) (more : List Char) :
    Toml.skipMark (cs ++ more) = Toml.skipMark cs ++ more := by
  rcases cs with _ | ⟨c, cs⟩
  · exact absurd rfl h
  by_cases hc : c = '\ufeff'
  · subst hc
    rfl
  · have hself : ∀ tail, Toml.skipMark (c :: tail) = c :: tail := fun tail =>
      Toml.skipMark.eq_2 _ fun _ heq => hc (List.cons.inj heq).1
    rw [List.cons_append, hself, hself, List.cons_append]

lemma Opens.above_ne_nil {above below : List Char} (h : Opens above below) : above ≠ [] := by
  have hstart : ∀ {key statements above}, StartsEntry key statements above → above ≠ [] := by
    rintro key statements _ ⟨-, -, -, hlabel, -, -⟩ hnil
    simp only [List.append_eq_nil_iff] at hnil
    exact hlabel.ne_nil rfl hnil.2.2.1
  cases h with
  | headed start => exact hstart start
  | bracketed start => exact List.append_ne_nil_of_left_ne_nil (hstart start) _

/-- **The answer of a file with an open due date**: it is refused whatever is typed there, or the
request is the same but for the instant that was typed. -/
lemma Form.IsOpen.read_fill {f : Form} (h : f.IsOpen) :
    (∃ error, ∀ typed value, value.IsPlain → Types typed.toList value f.below.toList →
      read (f.fill typed) = .error error) ∨
    ∃ (index : Nat) (rest : Except Error PlanRequest),
      (∀ r, rest = .ok r → index < r.installments.length) ∧
      ∀ typed value, value.IsPlain → Types typed.toList value f.below.toList →
        read (f.fill typed) = (due value).mapError (.badInstallment (index + 1)) >>= fun dueAt =>
          rest.map fun r => r.withDue index dueAt := by
  obtain ⟨document, hopen, hdocument⟩ := Opens.exists_document h
  have hread : ∀ typed value, Types typed.toList value f.below.toList →
      read (f.fill typed) = answer (document value) := by
    intro typed value htyped
    have hchars : Toml.skipMark (f.fill typed).toList =
        Toml.skipMark f.above.toList ++ (typed.toList ++ f.below.toList) := by
      rw [Form.fill, String.toList_append, String.toList_append, List.append_assoc,
        skipMark_append (Opens.above_ne_nil h)]
    have hstatements : Toml.readStatements (f.fill typed) >>= Toml.document? = document value := by
      rw [Toml.readStatements, hchars]
      exact hdocument _ value htyped
    exact congrArg answer hstatements
  refine (answer_open hopen).imp (fun ⟨error, herror⟩ => ⟨error, fun typed value hplain ht => ?_⟩)
    fun ⟨index, rest, hindex, hrest⟩ =>
      ⟨index, rest, hindex, fun typed value hplain ht => ?_⟩
  · rw [hread typed value ht, herror value hplain]
  · rw [hread typed value ht, hrest value hplain]

/-! ## Due dates with and without quotes -/

section Typed

variable {text : String} {m : Moment} {below : List Char}

/-- A text that spells a moment with a zone is read as the instant of that moment. -/
lemma readDue_zoned {d : Toml.Day} {c : Toml.Clock} {zone : Toml.Zone}
    (h : SpellsMoment (.both d c (some zone)) text.toList) :
    ∃ i, Instant.ofReading (Instant.readingOf d c zone) = .ok i ∧ readDue text = .ok i := by
  obtain ⟨i, hi⟩ := Instant.exists_ofReading h
  refine ⟨i, hi, ?_⟩
  rw [readDue, Instant.ofExactText, Instant.scanExact_zoned h]
  simp only [ok_bind, ne_eq, not_true_eq_false, if_false, hi]
  rfl

/-- A text that spells a moment without a zone is read as no instant. -/
lemma readDue_unzoned (h : SpellsMoment m text.toList) (hm : m.zone? = none) :
    ∃ fault, readDue text = .error (.unreadable text fault) := by
  obtain ⟨fault, hfault⟩ := Instant.scanExact_unzoned h hm
  refine ⟨fault, ?_⟩
  rw [readDue, Instant.ofExactText, hfault]
  rfl

/-- A moment with a zone and its text are the same due date. -/
lemma due_zoned {d : Toml.Day} {c : Toml.Clock} {zone : Toml.Zone}
    (h : Moment.typed? text = some (.both d c (some zone))) :
    ∃ i, Instant.ofReading (Instant.readingOf d c zone) = .ok i ∧
      due (.moment (.both d c (some zone))) = .ok i ∧ due (.text text) = .ok i := by
  obtain ⟨i, hi, hmoment⟩ := readDue_zoned (Moment.spells_text_of_typed? h)
  obtain ⟨j, hj, htext⟩ := readDue_zoned (Moment.spells_of_typed? h)
  obtain rfl := Except.ok.inj (hi.symm.trans hj)
  exact ⟨i, hi, hmoment, htext⟩

/-- A moment without a zone and its text are no due dates. -/
lemma due_unzoned (h : Moment.typed? text = some m) (hm : m.zone? = none) :
    ∃ fault fault', due (.moment m) = .error (.unreadable m.text fault) ∧
      due (.text text) = .error (.unreadable text fault') := by
  obtain ⟨fault, hmoment⟩ := readDue_unzoned (Moment.spells_text_of_typed? h) hm
  obtain ⟨fault', htext⟩ := readDue_unzoned (Moment.spells_of_typed? h) hm
  exact ⟨fault, fault', hmoment, htext⟩

end Typed

/-- A moment typed for the due date is refused with the whole file, or it decides on the due date of
one installment alone, with and without quotes. -/
lemma Form.IsOpen.read_typed {f : Form} (hf : f.IsOpen) :
    (∃ error, ∀ t m, Moment.typed? t = some m →
      read (f.fill t) = .error error ∧ read (f.fill (inQuotes t)) = .error error) ∨
    ∃ (k : Nat) (rest : Except Error PlanRequest),
      (∀ r, rest = .ok r → k < r.installments.length) ∧
      (∀ t d c zone, Moment.typed? t = some (.both d c (some zone)) →
        ∃ i, Instant.ofReading (Instant.readingOf d c zone) = .ok i ∧
          read (f.fill t) = rest.map (fun r => r.withDue k i) ∧
          read (f.fill (inQuotes t)) = rest.map fun r => r.withDue k i) ∧
      ∀ t m, Moment.typed? t = some m → m.zone? = none → ∃ fault fault',
        read (f.fill t) = .error (.badInstallment (k + 1) (.unreadable m.text fault)) ∧
        read (f.fill (inQuotes t)) = .error (.badInstallment (k + 1) (.unreadable t fault')) := by
  have hmoment : ∀ {t m}, Moment.typed? t = some m → Types t.toList (.moment m) f.below.toList :=
    fun h => (Moment.spells_of_typed? h).types (Opens.endsMoment hf)
  have htext : ∀ {t m}, Moment.typed? t = some m →
      Types (inQuotes t).toList (.text t) f.below.toList := fun h =>
    (Moment.spells_of_typed? h).types_quoted _
  rcases hf.read_fill with ⟨error, herror⟩ | ⟨k, rest, hk, hrest⟩
  · exact .inl ⟨error, fun t m h =>
      ⟨herror _ _ (.moment _) (hmoment h), herror _ _ (.text _) (htext h)⟩⟩
  refine .inr ⟨k, rest, hk, fun t d c zone h => ?_, fun t m h hm => ?_⟩
  · obtain ⟨i, hi, hdueMoment, hdueText⟩ := due_zoned h
    refine ⟨i, hi, ?_, ?_⟩
    · rw [hrest _ _ (.moment _) (hmoment h), hdueMoment]
      rfl
    · rw [hrest _ _ (.text _) (htext h), hdueText]
      rfl
  · obtain ⟨fault, fault', hdueMoment, hdueText⟩ := due_unzoned h hm
    refine ⟨fault, fault', ?_, ?_⟩
    · rw [hrest _ _ (.moment _) (hmoment h), hdueMoment]
      rfl
    · rw [hrest _ _ (.text _) (htext h), hdueText]
      rfl

/-- **Both ways to type a due date agree.**  In a file with an open due date, a moment with a zone
is read the same with and without quotes, and a moment without one is refused either way.  If the
file is accepted with one moment with a zone, it is accepted with each of them, and the request is
the same but for the instant of this moment; a moment without a zone is refused as the due date of
that installment. -/
theorem due_dates_agree {f : Form} (hf : f.IsOpen) :
    (∀ t d c zone, Moment.typed? t = some (.both d c (some zone)) →
      read (f.fill t) = read (f.fill (inQuotes t))) ∧
    (∀ t m, Moment.typed? t = some m → m.zone? = none →
      (∃ error, read (f.fill t) = .error error) ∧
        ∃ error, read (f.fill (inQuotes t)) = .error error) ∧
    ∀ t₀ d₀ c₀ zone₀ r, Moment.typed? t₀ = some (.both d₀ c₀ (some zone₀)) →
      read (f.fill t₀) = .ok r → ∃ k < r.installments.length,
        (∀ t d c zone, Moment.typed? t = some (.both d c (some zone)) →
          ∃ i, Instant.ofReading (Instant.readingOf d c zone) = .ok i ∧
            read (f.fill t) = .ok (r.withDue k i) ∧
            read (f.fill (inQuotes t)) = .ok (r.withDue k i)) ∧
        ∀ t m, Moment.typed? t = some m → m.zone? = none → ∃ fault fault',
          read (f.fill t) = .error (.badInstallment (k + 1) (.unreadable m.text fault)) ∧
          read (f.fill (inQuotes t)) =
            .error (.badInstallment (k + 1) (.unreadable t fault')) := by
  rcases hf.read_typed with ⟨error, hboth⟩ | ⟨k, rest, hk, hzoned, hunzoned⟩
  · refine ⟨fun t d c zone h => ?_, fun t m h _ => ?_, fun t d c zone r h hr => ?_⟩
    · rw [(hboth t _ h).1, (hboth t _ h).2]
    · exact ⟨⟨error, (hboth t m h).1⟩, error, (hboth t m h).2⟩
    · exact nomatch (hboth t _ h).1.symm.trans hr
  refine ⟨fun t d c zone h => ?_, fun t m h hm => ?_, fun t₀ d₀ c₀ zone₀ r h₀ hr => ?_⟩
  · obtain ⟨i, -, hnative, hquoted⟩ := hzoned t d c zone h
    exact hnative.trans hquoted.symm
  · obtain ⟨_, _, hnative, hquoted⟩ := hunzoned t m h hm
    exact ⟨⟨_, hnative⟩, _, hquoted⟩
  · obtain ⟨i₀, -, hnative, -⟩ := hzoned t₀ d₀ c₀ zone₀ h₀
    rw [hr] at hnative
    rcases rest with error | r'
    · exact nomatch hnative
    obtain rfl : r = r'.withDue k i₀ := Except.ok.inj hnative
    refine ⟨k, ?_, fun t d c zone h => ?_, hunzoned⟩
    · rw [PlanRequest.length_withDue]
      exact hk r' rfl
    · obtain ⟨i, hi, hnative, hquoted⟩ := hzoned t d c zone h
      refine ⟨i, hi, ?_, ?_⟩
      · rw [PlanRequest.withDue_withDue, hnative, map_ok]
      · rw [PlanRequest.withDue_withDue, hquoted, map_ok]

/-- The first lines of an installment. -/
def firstLines : String := "[[installments]]\namount = \"100\"\ncurrency = \"USD\"\n"

/-- The lines of a plan without its installments. -/
def planLines : String :=
  "[plan]\nuser_id = \"6f9619ff-8b86-d011-b42d-00cf4fc964ff\"\ncurrency = \"USD\"\n" ++
    "total_amount = \"100\"\n"

/-- A plan with one installment, whose due date is open. -/
def headed : Form where
  above := firstLines ++ "due_at = "
  below := " # at once\n" ++ planLines

/-- The same plan with its installment between braces. -/
def braced : Form where
  above := "installments = [\x7bamount = \"100\", currency = \"USD\", due_at = "
  below := "\x7d]\n" ++ planLines

lemma exists_read_planLines : ∃ statements,
    Toml.readStatementsFuel (planLines.toList.length + 1) planLines.toList = some statements :=
  Option.isSome_iff_exists.1 (by decide +kernel)

/-- The first lines of an installment are its header and its texts. -/
lemma readStatementsFuel_firstLines :
    Toml.readStatementsFuel (firstLines.toList.length + 1) firstLines.toList =
      some ([] ++ .listHeader ⟨[], listField⟩ :: [.entry ⟨[], "amount"⟩ (.text "100"),
        .entry ⟨[], "currency"⟩ (.text "USD")]) := by
  have hlines : firstLines.toList = '[' :: ("[installments]]\n".toList ++
      ('a' :: ("mount".toList ++ ' ' :: '=' :: ' ' :: (Toml.writeString "100" ++ '\n' ::
        ('c' :: ("urrency".toList ++ ' ' :: '=' :: ' ' :: (Toml.writeString "USD" ++
          '\n' :: []))))))) := by decide +kernel
  obtain ⟨fuel, hfuel⟩ : ∃ fuel, firstLines.toList.length + 1 = fuel + 4 :=
    ⟨46, by decide +kernel⟩
  have hheader : ∀ rest, Toml.scanStatement ('[' :: ("[installments]]\n".toList ++ rest)) =
      some (.listHeader ⟨[], listField⟩, rest) := fun _ => rfl
  have hend : Toml.readStatementsFuel (fuel + 1) [] = some [] := rfl
  rw [hfuel, hlines, Toml.readStatementsFuel_cons (by decide) (hheader _),
    Toml.readStatementsFuel_text rfl, Toml.readStatementsFuel_text rfl, hend]
  rfl

lemma headed_isOpen : headed.IsOpen := by
  have hread := readStatementsFuel_firstLines
  have hwhole : WholeLines firstLines.toList := by decide +kernel
  have hlabel : Takes scanLabel "due_at =".toList ⟨[], dueField⟩ := fun _ => rfl
  have hgap : ∀ c ∈ [' '], Toml.isGap c := List.forall_mem_singleton.2 rfl
  have hstart := StartsEntry.mk (.inr hwhole) hread (List.forall_mem_nil _) hlabel
    (Text.stopsAt_cons rfl _) hgap
  have hentries : ∀ s ∈ [Statement.entry ⟨[], "amount"⟩ (.text "100"),
      .entry ⟨[], "currency"⟩ (.text "USD")], s.IsEntry := by decide
  have hline : ∀ rest, Toml.scanLineEnd (" # at once\n".toList ++ rest) = some ((), rest) :=
    fun _ => rfl
  obtain ⟨behind, hbehind⟩ := exists_read_planLines
  have habove : Toml.skipMark headed.above.toList =
      firstLines.toList ++ ([] ++ ("due_at =".toList ++ [' '])) := by decide +kernel
  have hbelow : headed.below.toList = " # at once\n".toList ++ planLines.toList :=
    String.toList_append
  rw [Form.IsOpen, habove, hbelow]
  exact .headed hstart hentries (.mk (hline _) hbehind)

lemma braced_isOpen : braced.IsOpen := by
  have hgap : ∀ c ∈ [' '], Toml.isGap c := List.forall_mem_singleton.2 rfl
  have hlistLabel : Takes scanLabel "installments =".toList ⟨[], listField⟩ := fun _ => rfl
  have hstart : StartsEntry ⟨[], listField⟩ [] _ := .mk (.inl rfl) rfl (List.forall_mem_nil _)
    hlistLabel (Text.stopsAt_cons rfl _) hgap
  have hamountLabel : Takes scanLabel "amount =".toList ⟨[], "amount"⟩ := fun _ => rfl
  have hcurrencyLabel : Takes scanLabel " currency =".toList ⟨[], "currency"⟩ := fun _ => rfl
  have hamount : Takes (scanNamed (Toml.scanValue 77)) "amount = \"100\",".toList
      (⟨[], "amount"⟩, .text "100") := Toml.takes_scanNamed_writeString hamountLabel "100" 77
  have hcurrency : Takes (scanNamed (Toml.scanValue 77)) " currency = \"USD\",".toList
      (⟨[], "currency"⟩, .text "USD") := Toml.takes_scanNamed_writeString hcurrencyLabel "USD" 77
  have hlabel : Takes scanLabel " due_at =".toList ⟨[], dueField⟩ := fun _ => rfl
  have hlayout : ∀ cs, Toml.skipLayout ([] ++ '\x7b' :: cs) = '\x7b' :: cs := fun _ => rfl
  have htable : ∀ rest, scanBehindNamed (Toml.scanValue 77) ("\x7d".toList ++ ("]".toList ++ rest)) =
      some ([], "]".toList ++ rest) := fun _ => rfl
  have hlist : ∀ rest, scanBehindListed (Toml.scanValue 78) ("]".toList ++ rest) =
      some ([], rest) := fun _ => rfl
  have hopen := OpensListed.mk .nil hlayout (.cons hamount (.cons hcurrency .nil)) hlabel hgap
    (htable ('\n' :: planLines.toList)) (hlist _)
  obtain ⟨behind, hbehind⟩ := exists_read_planLines
  have hend : EndsEntry behind ('\n' :: planLines.toList) := .mk rfl hbehind
  have hbelow : braced.below.toList = "\x7d".toList ++ ("]".toList ++ '\n' :: planLines.toList) :=
    String.toList_append
  have habove : Toml.skipMark braced.above.toList =
      [] ++ ([] ++ ("installments =".toList ++ [' '])) ++ '[' :: ([] ++ ([] ++ '\x7b' ::
        ("amount = \"100\",".toList ++ (" currency = \"USD\",".toList ++ []) ++
          (" due_at =".toList ++ [' '])))) := by decide +kernel
  rw [Form.IsOpen, habove, hbelow]
  exact .bracketed hstart (List.forall_mem_nil _) hopen hend

/-- A leap second behind a small letter, with more digits than count and a zone behind universal
time, and a moment without a zone. -/
theorem due_dates_agree_leapSecond :
    Moment.typed? "2025-01-31t23:59:60.1234567895-05:30" =
        some (.both ⟨2025, 1, 31⟩ ⟨23, 59, 60, 123456789⟩ (some (.ahead (-330)))) ∧
      Moment.typed? "2025-01-31 23:59:59" = some (.both ⟨2025, 1, 31⟩ ⟨23, 59, 59, 0⟩ none) ∧
      (∃ (r : PlanRequest) (k : Nat) (i : Instant), k < r.installments.length ∧
        Instant.ofReading (Instant.readingOf ⟨2025, 1, 31⟩ ⟨23, 59, 60, 123456789⟩ (.ahead (-330))) =
          .ok i ∧
        read (headed.fill "2025-01-31t23:59:60.1234567895-05:30") = .ok (r.withDue k i) ∧
        read (headed.fill (inQuotes "2025-01-31t23:59:60.1234567895-05:30")) =
          .ok (r.withDue k i)) ∧
      ((∃ error, read (headed.fill "2025-01-31 23:59:59") = .error error) ∧
        ∃ error, read (headed.fill (inQuotes "2025-01-31 23:59:59")) = .error error) ∧
      read (braced.fill "2025-01-31t23:59:60.1234567895-05:30") =
        read (braced.fill (inQuotes "2025-01-31t23:59:60.1234567895-05:30")) := by
  have hleap : Moment.typed? "2025-01-31t23:59:60.1234567895-05:30" =
      some (.both ⟨2025, 1, 31⟩ ⟨23, 59, 60, 123456789⟩ (some (.ahead (-330)))) := by
    decide +kernel
  have hlocal : Moment.typed? "2025-01-31 23:59:59" =
      some (.both ⟨2025, 1, 31⟩ ⟨23, 59, 59, 0⟩ none) := by decide +kernel
  have hplain : Moment.typed? "2025-01-31T00:00:00Z" =
      some (.both ⟨2025, 1, 31⟩ ⟨0, 0, 0, 0⟩ (some .universal)) := by decide +kernel
  obtain ⟨-, hrefused, haccepted⟩ := due_dates_agree headed_isOpen
  obtain ⟨hsame, -, -⟩ := due_dates_agree braced_isOpen
  rcases hread : read (headed.fill "2025-01-31T00:00:00Z") with error | r
  · have hok : (read (headed.fill "2025-01-31T00:00:00Z")).toOption.isSome := by decide +kernel
    rw [hread] at hok
    exact nomatch hok
  obtain ⟨k, hk, hzoned, -⟩ := haccepted _ _ _ _ r hplain hread
  obtain ⟨i, hi, hnative, hquoted⟩ := hzoned _ _ _ _ hleap
  exact ⟨hleap, hlocal, ⟨r, k, i, hk, hi, hnative, hquoted⟩, hrefused _ _ hlocal rfl,
    hsame _ _ _ _ hleap⟩

end PlanFile

end PaymentPlans
