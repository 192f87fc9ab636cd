import CloudGuest.Library.Casing

/-!
`str.upper` over Unicode 15: the rows of the character database that raise one code
point to another, and the code points raised to two or three. Upper case is settled:
raising it again changes nothing, and no letter is raised to a blank, a digit or a
punctuation mark.
-/

namespace CloudGuest.Uppercase

open Texts Casing

def rows : List Row :=
  [⟨97, 122, 1, 65⟩, ⟨181, 181, 2, 924⟩, ⟨224, 246, 1, 192⟩, ⟨248, 254, 1, 216⟩, ⟨255, 255, 2, 376⟩,
    ⟨257, 303, 2, 256⟩, ⟨305, 305, 2, 73⟩, ⟨307, 311, 2, 306⟩, ⟨314, 328, 2, 313⟩,
    ⟨331, 375, 2, 330⟩, ⟨378, 382, 2, 377⟩, ⟨383, 383, 2, 83⟩, ⟨384, 384, 2, 579⟩,
    ⟨387, 389, 2, 386⟩, ⟨392, 392, 2, 391⟩, ⟨396, 396, 2, 395⟩, ⟨402, 402, 2, 401⟩,
    ⟨405, 405, 2, 502⟩, ⟨409, 409, 2, 408⟩, ⟨410, 410, 2, 573⟩, ⟨414, 414, 2, 544⟩,
    ⟨417, 421, 2, 416⟩, ⟨424, 424, 2, 423⟩, ⟨429, 429, 2, 428⟩, ⟨432, 432, 2, 431⟩,
    ⟨436, 438, 2, 435⟩, ⟨441, 441, 2, 440⟩, ⟨445, 445, 2, 444⟩, ⟨447, 447, 2, 503⟩,
    ⟨453, 453, 2, 452⟩, ⟨454, 454, 2, 452⟩, ⟨456, 456, 2, 455⟩, ⟨457, 457, 2, 455⟩,
    ⟨459, 459, 2, 458⟩, ⟨460, 460, 2, 458⟩, ⟨462, 476, 2, 461⟩, ⟨477, 477, 2, 398⟩,
    ⟨479, 495, 2, 478⟩, ⟨498, 498, 2, 497⟩, ⟨499, 499, 2, 497⟩, ⟨501, 501, 2, 500⟩,
    ⟨505, 543, 2, 504⟩, ⟨547, 563, 2, 546⟩, ⟨572, 572, 2, 571⟩, ⟨575, 576, 1, 11390⟩,
    ⟨578, 578, 2, 577⟩, ⟨583, 591, 2, 582⟩, ⟨592, 592, 2, 11375⟩, ⟨593, 593, 2, 11373⟩,
    ⟨594, 594, 2, 11376⟩, ⟨595, 595, 2, 385⟩, ⟨596, 596, 2, 390⟩, ⟨598, 599, 1, 393⟩,
    ⟨601, 601, 2, 399⟩, ⟨603, 603, 2, 400⟩, ⟨604, 604, 2, 42923⟩, ⟨608, 608, 2, 403⟩,
    ⟨609, 609, 2, 42924⟩, ⟨611, 611, 2, 404⟩, ⟨613, 613, 2, 42893⟩, ⟨614, 614, 2, 42922⟩,
    ⟨616, 616, 2, 407⟩, ⟨617, 617, 2, 406⟩, ⟨618, 618, 2, 42926⟩, ⟨619, 619, 2, 11362⟩,
    ⟨620, 620, 2, 42925⟩, ⟨623, 623, 2, 412⟩, ⟨625, 625, 2, 11374⟩, ⟨626, 626, 2, 413⟩,
    ⟨629, 629, 2, 415⟩, ⟨637, 637, 2, 11364⟩, ⟨640, 640, 2, 422⟩, ⟨642, 642, 2, 42949⟩,
    ⟨643, 643, 2, 425⟩, ⟨647, 647, 2, 42929⟩, ⟨648, 648, 2, 430⟩, ⟨649, 649, 2, 580⟩,
    ⟨650, 651, 1, 433⟩, ⟨652, 652, 2, 581⟩, ⟨658, 658, 2, 439⟩, ⟨669, 669, 2, 42930⟩,
    ⟨670, 670, 2, 42928⟩, ⟨837, 837, 2, 921⟩, ⟨881, 883, 2, 880⟩, ⟨887, 887, 2, 886⟩,
    ⟨891, 893, 1, 1021⟩, ⟨940, 940, 2, 902⟩, ⟨941, 943, 1, 904⟩, ⟨945, 961, 1, 913⟩,
    ⟨962, 962, 2, 931⟩, ⟨963, 971, 1, 931⟩, ⟨972, 972, 2, 908⟩, ⟨973, 974, 1, 910⟩,
    ⟨976, 976, 2, 914⟩, ⟨977, 977, 2, 920⟩, ⟨981, 981, 2, 934⟩, ⟨982, 982, 2, 928⟩,
    ⟨983, 983, 2, 975⟩, ⟨985, 1007, 2, 984⟩, ⟨1008, 1008, 2, 922⟩, ⟨1009, 1009, 2, 929⟩,
    ⟨1010, 1010, 2, 1017⟩, ⟨1011, 1011, 2, 895⟩, ⟨1013, 1013, 2, 917⟩, ⟨1016, 1016, 2, 1015⟩,
    ⟨1019, 1019, 2, 1018⟩, ⟨1072, 1103, 1, 1040⟩, ⟨1104, 1119, 1, 1024⟩, ⟨1121, 1153, 2, 1120⟩,
    ⟨1163, 1215, 2, 1162⟩, ⟨1218, 1230, 2, 1217⟩, ⟨1231, 1231, 2, 1216⟩, ⟨1233, 1327, 2, 1232⟩,
    ⟨1377, 1414, 1, 1329⟩, ⟨4304, 4346, 1, 7312⟩, ⟨4349, 4351, 1, 7357⟩, ⟨5112, 5117, 1, 5104⟩,
    ⟨7296, 7296, 2, 1042⟩, ⟨7297, 7297, 2, 1044⟩, ⟨7298, 7298, 2, 1054⟩, ⟨7299, 7300, 1, 1057⟩,
    ⟨7301, 7301, 2, 1058⟩, ⟨7302, 7302, 2, 1066⟩, ⟨7303, 7303, 2, 1122⟩, ⟨7304, 7304, 2, 42570⟩,
    ⟨7545, 7545, 2, 42877⟩, ⟨7549, 7549, 2, 11363⟩, ⟨7566, 7566, 2, 42950⟩, ⟨7681, 7829, 2, 7680⟩,
    ⟨7835, 7835, 2, 7776⟩, ⟨7841, 7935, 2, 7840⟩, ⟨7936, 7943, 1, 7944⟩, ⟨7952, 7957, 1, 7960⟩,
    ⟨7968, 7975, 1, 7976⟩, ⟨7984, 7991, 1, 7992⟩, ⟨8000, 8005, 1, 8008⟩, ⟨8017, 8023, 2, 8025⟩,
    ⟨8032, 8039, 1, 8040⟩, ⟨8048, 8049, 1, 8122⟩, ⟨8050, 8053, 1, 8136⟩, ⟨8054, 8055, 1, 8154⟩,
    ⟨8056, 8057, 1, 8184⟩, ⟨8058, 8059, 1, 8170⟩, ⟨8060, 8061, 1, 8186⟩, ⟨8112, 8113, 1, 8120⟩,
    ⟨8126, 8126, 2, 921⟩, ⟨8144, 8145, 1, 8152⟩, ⟨8160, 8161, 1, 8168⟩, ⟨8165, 8165, 2, 8172⟩,
    ⟨8526, 8526, 2, 8498⟩, ⟨8560, 8575, 1, 8544⟩, ⟨8580, 8580, 2, 8579⟩, ⟨9424, 9449, 1, 9398⟩,
    ⟨11312, 11359, 1, 11264⟩, ⟨11361, 11361, 2, 11360⟩, ⟨11365, 11365, 2, 570⟩,
    ⟨11366, 11366, 2, 574⟩, ⟨11368, 11372, 2, 11367⟩, ⟨11379, 11379, 2, 11378⟩,
    ⟨11382, 11382, 2, 11381⟩, ⟨11393, 11491, 2, 11392⟩, ⟨11500, 11502, 2, 11499⟩,
    ⟨11507, 11507, 2, 11506⟩, ⟨11520, 11557, 1, 4256⟩, ⟨11559, 11559, 2, 4295⟩,
    ⟨11565, 11565, 2, 4301⟩, ⟨42561, 42605, 2, 42560⟩, ⟨42625, 42651, 2, 42624⟩,
    ⟨42787, 42799, 2, 42786⟩, ⟨42803, 42863, 2, 42802⟩, ⟨42874, 42876, 2, 42873⟩,
    ⟨42879, 42887, 2, 42878⟩, ⟨42892, 42892, 2, 42891⟩, ⟨42897, 42899, 2, 42896⟩,
    ⟨42900, 42900, 2, 42948⟩, ⟨42903, 42921, 2, 42902⟩, ⟨42933, 42947, 2, 42932⟩,
    ⟨42952, 42954, 2, 42951⟩, ⟨42961, 42961, 2, 42960⟩, ⟨42967, 42969, 2, 42966⟩,
    ⟨42998, 42998, 2, 42997⟩, ⟨43859, 43859, 2, 42931⟩, ⟨43888, 43967, 1, 5024⟩,
    ⟨65345, 65370, 1, 65313⟩, ⟨66600, 66639, 1, 66560⟩, ⟨66776, 66811, 1, 66736⟩,
    ⟨66967, 66977, 1, 66928⟩, ⟨66979, 66993, 1, 66940⟩, ⟨66995, 67001, 1, 66956⟩,
    ⟨67003, 67004, 1, 66964⟩, ⟨68800, 68850, 1, 68736⟩, ⟨71872, 71903, 1, 71840⟩,
    ⟨93792, 93823, 1, 93760⟩, ⟨125218, 125251, 1, 125184⟩]

def specials : List (Nat × List Nat) :=
  [(223, [83, 83]), (329, [700, 78]), (496, [74, 780]), (912, [921, 776, 769]),
    (944, [933, 776, 769]), (1415, [1333, 1362]), (7830, [72, 817]), (7831, [84, 776]),
    (7832, [87, 778]), (7833, [89, 778]), (7834, [65, 702]), (8016, [933, 787]),
    (8018, [933, 787, 768]), (8020, [933, 787, 769]), (8022, [933, 787, 834]), (8064, [7944, 921]),
    (8065, [7945, 921]), (8066, [7946, 921]), (8067, [7947, 921]), (8068, [7948, 921]),
    (8069, [7949, 921]), (8070, [7950, 921]), (8071, [7951, 921]), (8072, [7944, 921]),
    (8073, [7945, 921]), (8074, [7946, 921]), (8075, [7947, 921]), (8076, [7948, 921]),
    (8077, [7949, 921]), (8078, [7950, 921]), (8079, [7951, 921]), (8080, [7976, 921]),
    (8081, [7977, 921]), (8082, [7978, 921]), (8083, [7979, 921]), (8084, [7980, 921]),
    (8085, [7981, 921]), (8086, [7982, 921]), (8087, [7983, 921]), (8088, [7976, 921]),
    (8089, [7977, 921]), (8090, [7978, 921]), (8091, [7979, 921]), (8092, [7980, 921]),
    (8093, [7981, 921]), (8094, [7982, 921]), (8095, [7983, 921]), (8096, [8040, 921]),
    (8097, [8041, 921]), (8098, [8042, 921]), (8099, [8043, 921]), (8100, [8044, 921]),
    (8101, [8045, 921]), (8102, [8046, 921]), (8103, [8047, 921]), (8104, [8040, 921]),
    (8105, [8041, 921]), (8106, [8042, 921]), (8107, [8043, 921]), (8108, [8044, 921]),
    (8109, [8045, 921]), (8110, [8046, 921]), (8111, [8047, 921]), (8114, [8122, 921]),
    (8115, [913, 921]), (8116, [902, 921]), (8118, [913, 834]), (8119, [913, 834, 921]),
    (8124, [913, 921]), (8130, [8138, 921]), (8131, [919, 921]), (8132, [905, 921]),
    (8134, [919, 834]), (8135, [919, 834, 921]), (8140, [919, 921]), (8146, [921, 776, 768]),
    (8147, [921, 776, 769]), (8150, [921, 834]), (8151, [921, 776, 834]), (8162, [933, 776, 768]),
    (8163, [933, 776, 769]), (8164, [929, 787]), (8166, [933, 834]), (8167, [933, 776, 834]),
    (8178, [8186, 921]), (8179, [937, 921]), (8180, [911, 921]), (8182, [937, 834]),
    (8183, [937, 834, 921]), (8188, [937, 921]), (64256, [70, 70]), (64257, [70, 73]),
    (64258, [70, 76]), (64259, [70, 70, 73]), (64260, [70, 70, 76]), (64261, [83, 84]),
    (64262, [83, 84]), (64275, [1348, 1350]), (64276, [1348, 1333]), (64277, [1348, 1339]),
    (64278, [1358, 1350]), (64279, [1348, 1341])]

def upperCode (code : Nat) : Nat :=
  match rows.find? (·.covers code) with
  | some row => row.lowered code
  | none => code

def upperChar (char : Char) : Text :=
  match specials.find? fun special => Nat.beq special.1 char.toNat with
  | some special => special.2.map Char.ofNat
  | none => [Char.ofNat (upperCode char.toNat)]

def upper (text : Text) : Text := text.flatMap upperChar

def plainRanges : List (Nat × Nat) :=
  [(9, 13), (28, 64), (91, 96), (133, 133), (160, 160), (5760, 5760), (8192, 8233), (8239, 8239),
    (8287, 8287), (12288, 12288)]

def isPlain (char : Char) : Bool :=
  plainRanges.any fun range => Nat.ble range.1 char.toNat && Nat.ble char.toNat range.2

def Upper (char : Char) : Prop := upperChar char = [char]

instance (char : Char) : Decidable (Upper char) := inferInstanceAs (Decidable (_ = _))

def settledChar (char : Char) : Bool := Upper char && !isPlain char

section Settled

theorem rows_avoided :
    (rows.all fun row => rows.all fun other => row.avoids other.first other.last other.step) =
      true := by decide +kernel

theorem specials_avoided :
    (rows.all fun row => specials.all fun special => row.avoids special.1 special.1 1) = true := by
  decide +kernel

theorem plain_avoided :
    (rows.all fun row => plainRanges.all fun range => row.avoids range.1 range.2 1) = true := by
  decide +kernel

theorem specials_settled :
    (specials.all fun special => special.2.all fun code => settledChar (Char.ofNat code)) = true ∧
      settledChar (Char.ofNat 0) = true := by
  decide +kernel

theorem row_settled (row : Row) (member : row ∈ rows) (code : Nat)
    (covered : row.covers code = true) : settledChar (Char.ofNat (row.lowered code)) = true := by
  -- A row may lead to no character at all; the character made of that is the null one.
  by_cases valid : (row.lowered code).isValidChar
  · have same : (Char.ofNat (row.lowered code)).toNat = row.lowered code := by
      rw [Char.ofNat, dif_pos valid]
      rfl
    have single : (specials.find? fun special => Nat.beq special.1 (row.lowered code)) = none := by
      rw [List.find?_eq_none]
      intro special specialMember again
      have avoids := List.all_eq_true.mp (List.all_eq_true.mp specials_avoided row member) special
        specialMember
      apply row.not_between _ _ _ code avoids covered
      have reached : special.1 = row.lowered code := Nat.eq_of_beq_eq_true again
      rw [reached]
      exact ⟨le_rfl, le_rfl, Nat.mod_one _⟩
    have missing : rows.find? (·.covers (row.lowered code)) = none := by
      rw [List.find?_eq_none]
      intro other otherMember again
      have avoids := List.all_eq_true.mp (List.all_eq_true.mp rows_avoided row member) other
        otherMember
      apply row.not_between _ _ _ code avoids covered
      simpa [Row.covers, and_assoc] using again
    have lettered : isPlain (Char.ofNat (row.lowered code)) = false := by
      rw [isPlain, List.any_eq_false]
      intro range rangeMember inside
      have avoids := List.all_eq_true.mp (List.all_eq_true.mp plain_avoided row member) range
        rangeMember
      apply row.not_between _ _ _ code avoids covered
      rw [same, Bool.and_eq_true, Nat.ble_eq, Nat.ble_eq] at inside
      exact ⟨inside.1, inside.2, Nat.mod_one _⟩
    rw [settledChar, lettered, Bool.not_false, Bool.and_true, decide_eq_true_eq, Upper, upperChar,
      same, single]
    simp only [upperCode, missing]
  · rw [Char.ofNat, dif_neg valid]
    exact specials_settled.2

theorem upperChar_cases (char raised : Char) (member : raised ∈ upperChar char) :
    settledChar raised = true ∨ raised = char ∧ Upper char := by
  unfold upperChar at member
  split at member
  · rename_i special found
    left
    obtain ⟨code, listed, rfl⟩ := List.mem_map.mp member
    have settled := List.all_eq_true.mp specials_settled.1 special (List.mem_of_find?_eq_some found)
    exact List.all_eq_true.mp settled code listed
  · rename_i single
    obtain rfl := List.mem_singleton.mp member
    cases found : rows.find? (·.covers char.toNat) with
    | some row =>
        have covered : row.covers char.toNat = true := by simpa using List.find?_some found
        left
        rw [upperCode, found]
        exact row_settled row (List.mem_of_find?_eq_some found) _ covered
    | none =>
        right
        have fixed : upperCode char.toNat = char.toNat := by rw [upperCode, found]
        rw [fixed, Char.ofNat_toNat, Upper, upperChar, single, fixed, Char.ofNat_toNat]
        exact ⟨rfl, rfl⟩

theorem upperChar_upper (char : Char) : ∀ raised ∈ upperChar char, Upper raised := by
  intro raised member
  rcases upperChar_cases char raised member with settled | ⟨rfl, fixed⟩
  · rw [settledChar, Bool.and_eq_true, decide_eq_true_eq] at settled
    exact settled.1
  · exact fixed

theorem upperChar_plain (char raised : Char) (member : raised ∈ upperChar char)
    (plain : isPlain raised = true) : raised = char := by
  rcases upperChar_cases char raised member with settled | ⟨same, -⟩
  · rw [settledChar, plain, Bool.not_true, Bool.and_false] at settled
    cases settled
  · exact same

theorem isSpace_plain (char : Char) (space : isSpace char = true) : isPlain char = true := by
  simp only [isSpace, Bool.or_eq_true, Bool.and_eq_true, decide_eq_true_eq, List.mem_cons,
    List.not_mem_nil, or_false] at space
  simp only [isPlain, plainRanges, List.any_cons, List.any_nil, Bool.or_false, Bool.or_eq_true,
    Bool.and_eq_true, Nat.ble_eq]
  omega

theorem upperChar_not_space (char : Char) (notSpace : isSpace char = false) :
    ∀ raised ∈ upperChar char, isSpace raised = false := by
  intro raised member
  by_contra space
  rw [Bool.not_eq_false] at space
  rw [upperChar_plain char raised member (isSpace_plain raised space), notSpace] at space
  cases space

theorem upperChar_nonempty (char : Char) : upperChar char ≠ [] := by
  have several : (specials.all fun special => special.2 ≠ []) = true := by simp [specials]
  unfold upperChar
  split
  · rename_i special found
    have some := List.all_eq_true.mp several special (List.mem_of_find?_eq_some found)
    simpa using some
  · simp

theorem upper_append (left right : Text) : upper (left ++ right) = upper left ++ upper right :=
  List.flatMap_append

theorem upper_of_uppers (text : Text) (all : ∀ char ∈ text, Upper char) : upper text = text := by
  induction text with
  | nil => rfl
  | cons char rest ih =>
      have first : upperChar char = [char] := all char List.mem_cons_self
      rw [upper, List.flatMap_cons, first]
      exact congrArg _ (ih fun other member => all other (List.mem_cons_of_mem _ member))

theorem upper_upper (text : Text) : upper (upper text) = upper text := by
  apply upper_of_uppers
  intro raised member
  obtain ⟨char, _, here⟩ := List.mem_flatMap.mp member
  exact upperChar_upper char raised here

theorem upper_eq_self_iff (text : Text) : upper text = text ↔ ∀ char ∈ text, Upper char := by
  constructor
  · intro fixed char member
    rw [← fixed] at member
    obtain ⟨source, _, here⟩ := List.mem_flatMap.mp member
    exact upperChar_upper source char here
  · exact upper_of_uppers text

theorem upper_stripped (text : Text) (stripped : Stripped text) : Stripped (upper text) := by
  constructor
  · cases text with
    | nil => simp [upper]
    | cons first rest =>
        intro raised found
        rw [upper, List.flatMap_cons, List.head?_append_of_ne_nil _ (upperChar_nonempty first)] at found
        exact upperChar_not_space first (stripped.1 first rfl) raised (List.mem_of_head? found)
  · rcases List.eq_nil_or_concat text with rfl | ⟨front, last, rfl⟩
    · simp [upper]
    · intro raised found
      have notSpace : isSpace last = false := by
        apply stripped.2
        simp
      rw [List.concat_eq_append, upper_append] at found
      have lastUpper : upper [last] = upperChar last := by simp [upper]
      rw [lastUpper, List.getLast?_append_of_ne_nil _ (upperChar_nonempty last)] at found
      exact upperChar_not_space last notSpace raised (List.mem_of_getLast? found)

end Settled

end CloudGuest.Uppercase
