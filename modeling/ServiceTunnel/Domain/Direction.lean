import ServiceTunnel.Text.Mark
import ServiceTunnel.Text.Table

/-!
# ServiceTunnel.Domain.Direction

**Labels in scripts of either direction.** In a domain name with a character that is written from
the right, every label must be such that its characters keep together however the name is shown.
-/

namespace ServiceTunnel.Domain

/-- How a character behaves where text runs in both directions. -/
inductive Direction where
  | left
  | right
  /-- A letter of Arabic. -/
  | arabic
  /-- A digit of Arabic. -/
  | arabicNumber
  | number
  | numberSign
  | numberEnd
  | numberSeparator
  /-- A mark, which behaves as what it stands on. -/
  | mark
  | neutral
  | hidden
  /-- A character that parts texts. -/
  | separator
deriving DecidableEq, Repr

namespace Direction

/-- The characters that are not written from the left. -/
def table : Text.Table := .ofString "
0-8:BN 9-d:X e-1b:BN 1c-20:X 21-22:ON 23-25:ET 26-2a:ON 2b:ES 2c:CS 2d:ES 2e-2f:CS 30-39:EN 3a:CS
3b-60:ON 7b-7e:ON 7f:BN a1:ON a2-a5:ET a6-ae:ON b0-b1:ET b6-d7:ON f7:ON 2b9-2ba:ON 2c2-2cf:ON
2d2-2ed:ON 2ef-2ff:ON 375:ON 3f6:ON 58a-58e:ON 58f:ET 5be-5f4:R 606-607:ON 608:AL 609-60a:ET 60b:AL
60c:CS 60d:AL 60e-60f:ON 61b-64a:AL 660-669:AN 66a:ET 66b-66c:AN 66d-6d5:AL 6de:ON 6e5-6e6:AL
6e9:ON 6ee-6ef:AL 6f0-6f9:EN 6fa-7b1:AL 7c0-7f5:R 7f6-7f9:ON 7fa-85e:R 860-8c9:AL 9f2-9f3:ET 9fb:ET
af1:ET bf3-bf8:ON bf9:ET bfa:ON c78-c7e:ON e3f:ET f3a-f3d:ON 1390-1399:ON 1400:ON 169b-169c:ON
17db:ET 17f0-180a:ON 1940-1945:ON 19de-19ff:ON 200c-200d:BN 2010-2027:ON 2030-2032:ET 2035-2043:ON
2044:CS 2045-205e:ON 20a0-20c0:ET 2104-2129:ON 212e:ET 213a-214d:ON 218a-2211:ON 2212:ES 2213:ET
2214-2335:ON 237b-2394:ON 2396-26ab:ON 26ad-27ff:ON 2900-2bff:ON 2ce5-2cea:ON 2cf9-2cff:ON
2e00-3004:ON 3008-3020:ON 3030:ON 3037:ON 303d-303f:ON 30a0:ON 30fb:ON 31c0-31e5:ON 4dc0-4dff:ON
a490-a4c6:ON a60d-a60f:ON a673-a67f:ON a700-a721:ON a788:ON a828-a82b:ON a838-a839:ET a874-a877:ON
ab6a-ab6b:ON fbb2-fbd2:AL fd3e-fd4f:ON fd90-fdce:AL fdcf-fe46:ON fe73:AL 10101:ON 10140-1018c:ON
10190-101a0:ON 102e1-102fb:EN 10800-1091b:R 1091f:ON 10920-10b35:R 10b39-10b3f:ON 10b40-10cff:R
10d00-10d23:AL 10d30-10d39:AN 10d40-10d8f:R 10e60-10e7e:AN 10e80-10eb1:R 10ec2-10ed8:AL
10f00-10f27:R 10f30-10f59:AL 10f70-10ff6:R 11052-11065:ON 11660-1166c:ON 1171e:NSM 11fd5-11fdc:ON
11fdd-11fe0:ET 11fe1-11ff1:ON 16fe2:ON 1d1e9-1d2d3:ON 1d300-1d356:ON 1e2ff:ET 1e800-1e95f:R
1ec71-1ed3d:AL 1eef0-1f12f:ON 1f16d-1f16f:ON 1f1ad:ON 1f260-1fbfa:ON"

/-- Marks that are written from the left like letters. -/
def letterMarks : Text.CharSet :=
  ⟨[0xcbf, 0xcc0, 0xcc6, 0xcc7, 0x11a07, 0x11a09, 0x11c3f, 0x11c40]⟩

/-- The behaviour that an entry of the table names. -/
def ofEntry : List Char → Direction
  | ['R'] => .right
  | ['A', 'L'] => .arabic
  | ['A', 'N'] => .arabicNumber
  | ['E', 'N'] => .number
  | ['E', 'S'] => .numberSign
  | ['E', 'T'] => .numberEnd
  | ['C', 'S'] => .numberSeparator
  | ['O', 'N'] => .neutral
  | ['B', 'N'] => .hidden
  | _ => .separator

/-- The behaviour of a character. -/
def ofChar (c : Char) : Direction :=
  if Text.isNonspacing c then if letterMarks.contains c then .left else .mark
  else ((table.entry? c).map ofEntry).getD .left

/-- Whether the behaviour makes a name one of both directions. -/
def isRight : Direction → Bool
  | .right | .arabic | .arabicNumber => true
  | _ => false

/-- Behaviours that fit into text of any direction. -/
def weak : List Direction :=
  [.number, .numberSign, .numberEnd, .numberSeparator, .neutral, .hidden, .mark]

/-- Whether the last behaviour, marks apart, is one of `ends`. -/
def endsIn (ends ds : List Direction) : Bool :=
  (ds.reverse.dropWhile (· == .mark)).head?.any ends.contains

/-- Whether a label, which begins with a letter, keeps together. -/
def keepTogether (ds : List Direction) : Bool :=
  match ds with
  | [] => true
  | .left :: _ => ds.all (Direction.left :: weak).contains && endsIn [.left, .number] ds
  | .right :: _ | .arabic :: _ =>
    ds.all (Direction.right :: .arabic :: .arabicNumber :: weak).contains
      && endsIn [.right, .arabic, .number, .arabicNumber] ds
      && !(ds.contains .number && ds.contains .arabicNumber)
  | _ => false

end Direction

/-- Whether every label can be read if any of them is written from the right. -/
def directionsFit (labels : List (List Char)) : Bool :=
  let directions := labels.map (·.map Direction.ofChar)
  !directions.any (·.any Direction.isRight) || directions.all Direction.keepTogether

end ServiceTunnel.Domain
