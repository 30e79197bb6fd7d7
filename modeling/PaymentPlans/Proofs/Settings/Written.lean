/-
# The written form of settings

Settings are read back from their file: the address of the database is a string in the style that
fits it, and the number of connections is a line of its own.
-/
import PaymentPlans.Proofs.Toml.Statement
import PaymentPlans.Settings.File

namespace PaymentPlans

namespace Settings

/-- The number of connections is one that can be asked for. -/
def Fits (s : Settings) : Prop := ∀ n ∈ s.maxConnections, n ≤ connectionLimit

instance (s : Settings) : Decidable s.Fits :=
  inferInstanceAs (Decidable (∀ n ∈ s.maxConnections, n ≤ connectionLimit))

/-- The statements that settings are written as. -/
def statements (s : Settings) : List Toml.Statement :=
  [.header ⟨[], "database"⟩, .entry ⟨[], "url"⟩ (.text s.url)] ++
    s.maxConnections.elim [] fun n => [.entry ⟨[], "max_connections"⟩ (.integer n)]

/-- A line with a key and a value is taken if the value is taken up to the end of the line, and
the other lines follow. -/
lemma readStatementsFuel_line {key : String} {written rest : List Char} {value : Toml.Value}
    (c : Char) (cs : List Char) (hkey : key.toList = c :: cs) (hbare : (c :: cs).all Toml.isBare)
    (hvalue : Toml.scanValue Toml.maxDepth (Toml.skipGap (written ++ '\n' :: rest)) =
      some (value, '\n' :: rest)) (fuel : Nat) :
    Toml.readStatementsFuel (fuel + 1) (line key written ++ rest) =
      (Toml.readStatementsFuel fuel rest).map (.entry ⟨[], key⟩ value :: ·) := by
  rw [List.all_eq_true] at hbare
  have hname : String.ofList (c :: cs) = key := by rw [← hkey, String.ofList_toList]
  have hline : line key written ++ rest =
      c :: (cs ++ ' ' :: '=' :: ' ' :: (written ++ '\n' :: rest)) := by
    rw [line, hkey]
    simp only [List.cons_append, List.append_assoc, List.nil_append]
  rw [hline, ← hname]
  exact Toml.readStatementsFuel_entry hbare hvalue fuel

/-- The characters of the header. -/
lemma chars_eq (s : Settings) : s.chars = '[' :: ("database]\n".toList ++
    (line "url" (Toml.writeString s.url) ++
      s.maxConnections.elim [] fun n => line "max_connections" (Text.digits n))) := by
  have hheader : "[database]\n".toList = '[' :: "database]\n".toList := rfl
  exact (List.append_assoc _ _ _).trans (congrArg (· ++ _) hheader)

/-- The header is taken from the first line. -/
lemma scanStatement_header (rest : List Char) :
    Toml.scanStatement ('[' :: ("database]\n".toList ++ rest)) =
      some (.header ⟨[], "database"⟩, rest) := by
  have hheader : "database]\n".toList =
    ['d', 'a', 't', 'a', 'b', 'a', 's', 'e', ']', '\n'] := rfl
  rw [hheader]
  rfl

/-- The line of the address is taken, and the others follow. -/
lemma readStatementsFuel_url (url : String) (fuel : Nat) (rest : List Char) :
    Toml.readStatementsFuel (fuel + 1) (line "url" (Toml.writeString url) ++ rest) =
      (Toml.readStatementsFuel fuel rest).map (.entry ⟨[], "url"⟩ (.text url) :: ·) :=
  readStatementsFuel_line 'u' ['r', 'l'] rfl rfl
    (Toml.scanValue_writeString _ _ (by rintro ⟨⟩ <;> decide) _) fuel

/-- The line of the number of connections is taken, and the others follow. -/
lemma readStatementsFuel_maxConnections {n : Nat} (h : n ≤ connectionLimit) (fuel : Nat)
    (rest : List Char) :
    Toml.readStatementsFuel (fuel + 1) (line "max_connections" (Text.digits n) ++ rest) =
      (Toml.readStatementsFuel fuel rest).map
        (.entry ⟨[], "max_connections"⟩ (.integer n) :: ·) := by
  have hfits : (n : Int) ≤ Toml.maxInteger := Int.le_trans (Int.ofNat_le.2 h) (by decide)
  have hgap : Toml.skipGap (Text.digits n ++ '\n' :: rest) = Text.digits n ++ '\n' :: rest := by
    obtain ⟨c, cs, hdigits, hc⟩ := Toml.exists_digits_eq_cons n
    rw [hdigits]
    exact Toml.skipGap_of_ne (Toml.StartsStatement.of_isDigit hc).no_gap _
  refine readStatementsFuel_line 'm' "ax_connections".toList rfl rfl ?_ fuel
  rw [hgap]
  exact Toml.scanValue_digits hfits _ _

/-- The lines of settings are taken as their statements. -/
lemma readStatementsFuel_chars {s : Settings} (h : s.Fits) (fuel : Nat) :
    Toml.readStatementsFuel (fuel + 4) s.chars = some s.statements := by
  have hend : ∀ fuel, Toml.readStatementsFuel (fuel + 1) [] = some [] := fun _ => rfl
  have hheader : ∀ rest, Toml.readStatementsFuel (fuel + 4) ('[' :: ("database]\n".toList ++ rest)) =
      (Toml.readStatementsFuel (fuel + 3) rest).map (.header ⟨[], "database"⟩ :: ·) := fun rest =>
    Toml.readStatementsFuel_cons (by decide) (scanStatement_header rest) _
  obtain ⟨url, _ | n⟩ := s
  · rw [chars_eq, hheader, readStatementsFuel_url, Option.elim_none, hend]
    rfl
  · have hmax := readStatementsFuel_maxConnections (h n rfl) (fuel + 1) []
    rw [List.append_nil] at hmax
    rw [chars_eq, hheader, readStatementsFuel_url, Option.elim_some, hmax, hend]
    rfl

lemma readStatements_text {s : Settings} (h : s.Fits) :
    Toml.readStatements s.text = some s.statements := by
  have hlong : 3 ≤ s.chars.length := by
    have hheader : "database]\n".toList.length = 10 := rfl
    rw [chars_eq, List.length_cons, List.length_append, hheader]
    omega
  have hlength : s.chars.length + 1 = s.chars.length - 3 + 4 := by omega
  have hmark : Toml.skipMark s.chars = s.chars := by
    rw [chars_eq]
    rfl
  rw [Toml.readStatements, text, String.toList_ofList]
  simp only [hmark, hlength, readStatementsFuel_chars h]

/-- **Settings are read back from their text.** -/
lemma read_text {s : Settings} (h : s.Fits) : read s.text = some s := by
  rw [read, Toml.read, readStatements_text h]
  obtain ⟨url, _ | n⟩ := s
  · rfl
  · have hfits : 0 ≤ (n : Int) ∧ (n : Int) ≤ connectionLimit :=
      ⟨Int.natCast_nonneg n, Int.ofNat_le.2 (h n rfl)⟩
    have hn : connections? (.integer n) = some n := by
      rw [connections?, if_pos hfits, Int.toNat_natCast]
    have hdocument : Toml.document? (statements ⟨url, some n⟩) = some [("database",
      .table .headed [("url", .text url), ("max_connections", .integer n)])] := rfl
    have hdatabase : ofToml? (.table .headed [("database",
        .table .headed [("url", .text url), ("max_connections", .integer n)])]) =
          connections? (.integer n) >>= fun n => some ⟨url, some n⟩ := rfl
    simp only [Option.bind_eq_bind, Option.bind_some, hdocument, Option.map_some, hdatabase, hn]

end Settings

end PaymentPlans
