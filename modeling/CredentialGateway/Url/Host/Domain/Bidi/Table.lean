/-
The directions of characters, as data.

The values are 0 for left to right, 1 for right to left, 2 for an Arabic and 3 for a
European number, 4 for a nonspacing mark, 5 for a neutral character and 6 for one that
governs the direction of a whole text.
-/
import CredentialGateway.Text.Runs

namespace CredentialGateway.Url.Domain.Bidi

/-- The lengths and the values of the runs of equal direction. -/
def directionLines : List String :=
  ["9 5 5 6 14 5 5 6 15 5 10 3 7 5 26 0 6 5 26 0 10 5 1 6 36 5 1 0 7 5 2 3 1 5 1 0 3 5 1 3 1 0",
   "5 5 23 0 1 5 31 0 1 5 449 0 2 5 7 0 14 5 2 0 14 5 5 0 9 5 1 0 17 5 112 4 4 0 2 5 8 0 1 5",
   "5 0 2 5 1 0 1 5 110 0 1 5 140 0 7 4 256 0 1 5 2 0 3 5 1 1 45 4 1 1 1 4 1 1 2 4 1 1 2 4 1 1",
   "1 4 56 1 6 2 2 5 1 1 2 5 1 1 1 5 1 1 2 5 11 4 48 1 21 4 10 2 1 5 2 2 3 1 1 4 101 1 7 4 1 2",
   "1 5 6 4 2 1 2 4 1 5 4 4 2 1 10 3 23 1 1 4 30 1 27 4 91 1 11 4 58 1 9 4 2 1 4 5 3 1 1 4",
   "24 1 4 4 1 1 9 4 1 1 3 4 1 1 5 4 43 1 3 4 52 1 2 2 5 1 9 4 42 1 24 4 1 2 32 4 55 0 1 4 1 0",
   "1 4 4 0 8 4 4 0 1 4 3 0 7 4 10 0 2 4 29 0 1 4 58 0 1 4 4 0 4 4 8 0 1 4 20 0 2 4 14 0 2 5",
   "7 0 1 5 2 0 1 4 2 0 2 4 57 0 1 4 4 0 2 4 4 0 2 4 2 0 3 4 3 0 1 4 30 0 2 4 3 0 1 4 11 0 2 4",
   "57 0 1 4 4 0 5 4 1 0 2 4 4 0 1 4 20 0 2 4 13 0 1 5 8 0 6 4 1 0 1 4 58 0 1 4 2 0 1 4 1 0",
   "4 4 8 0 1 4 7 0 2 4 11 0 2 4 30 0 1 4 61 0 1 4 12 0 1 4 37 0 8 5 5 0 1 4 3 0 1 4 55 0 1 4",
   "1 0 3 4 5 0 3 4 1 0 4 4 7 0 2 4 11 0 2 4 20 0 7 5 2 0 1 4 58 0 1 4 15 0 2 4 20 0 2 4 28 0",
   "2 4 57 0 2 4 4 0 4 4 8 0 1 4 20 0 2 4 29 0 1 4 72 0 1 4 7 0 3 4 1 0 1 4 90 0 1 4 2 0 7 4",
   "4 0 1 5 7 0 8 4 98 0 1 4 2 0 9 4 11 0 7 4 73 0 2 4 27 0 1 4 1 0 1 4 1 0 1 4 4 5 51 0 14 4",
   "1 0 5 4 1 0 2 4 5 0 11 4 1 0 36 4 9 0 1 4 102 0 4 4 1 0 6 4 1 0 2 4 2 0 2 4 25 0 2 4 4 0",
   "3 4 16 0 4 4 13 0 1 4 2 0 2 4 6 0 1 4 15 0 1 4 703 0 3 4 48 0 10 5 102 0 1 5 639 0 1 6",
   "26 0 2 5 117 0 3 4 29 0 2 4 30 0 2 4 30 0 2 4 64 0 2 4 1 0 7 4 8 0 1 4 2 0 11 4 7 0 1 5",
   "1 0 1 4 18 0 10 5 6 0 11 5 3 4 1 5 1 4 117 0 2 4 34 0 1 4 118 0 3 4 4 0 2 4 9 0 1 4 6 0",
   "3 4 4 0 1 5 3 0 2 5 152 0 34 5 23 0 2 4 2 0 1 4 58 0 1 4 1 0 7 4 1 0 1 4 1 0 1 4 2 0 8 4",
   "6 0 10 4 2 0 1 4 48 0 46 4 2 0 12 4 20 0 4 4 48 0 1 4 1 0 5 4 1 0 1 4 5 0 1 4 40 0 9 4",
   "12 0 2 4 32 0 4 4 2 0 2 4 1 0 3 4 56 0 1 4 1 0 2 4 3 0 1 4 1 0 3 4 58 0 8 4 2 0 2 4 152 0",
   "3 4 1 0 13 4 1 0 7 4 4 0 1 4 6 0 1 4 3 0 2 4 198 0 64 4 445 0 1 5 1 0 3 5 11 0 3 5 13 0",
   "3 5 13 0 3 5 13 0 2 5 1 0 11 6 3 5 1 0 1 1 24 5 7 6 48 5 1 6 6 5 4 6 6 5 1 3 3 0 6 3 5 5",
   "1 0 10 3 5 5 17 0 48 5 33 4 15 0 2 5 1 0 4 5 1 0 2 5 10 0 1 5 1 0 3 5 5 0 6 5 1 0 1 5 1 0",
   "1 5 1 0 1 5 4 0 1 5 11 0 2 5 4 0 5 5 5 0 4 5 2 0 16 5 41 0 3 5 4 0 422 5 69 0 26 5 1 0",
   "148 5 22 0 11 5 21 0 40 5 20 3 78 0 450 5 1 0 339 5 256 0 628 5 2 0 138 5 229 0 6 5 4 0",
   "3 4 7 0 7 5 127 0 1 4 96 0 32 4 94 5 34 0 26 5 1 0 89 5 12 0 214 5 26 0 16 5 1 6 4 5 3 0",
   "25 5 9 0 4 4 2 0 1 5 5 0 2 5 5 0 3 5 89 0 2 4 2 5 3 0 1 5 90 0 1 5 196 0 38 5 9 0 1 5 45 0",
   "2 5 49 0 16 5 28 0 3 5 50 0 15 5 12 0 4 5 167 0 4 5 99 0 2 5 31 0 1 5 6592 0 64 5 22160 0",
   "55 5 326 0 3 5 95 0 4 4 1 5 10 4 2 5 30 0 2 4 80 0 2 4 14 0 34 5 102 0 1 5 121 0 1 4 3 0",
   "1 4 4 0 1 4 25 0 2 4 1 0 4 5 1 4 11 0 2 5 58 0 4 5 76 0 2 4 26 0 18 4 13 0 1 4 38 0 8 4",
   "25 0 11 4 46 0 3 4 48 0 1 4 2 0 4 4 2 0 2 4 39 0 1 4 67 0 6 4 2 0 2 4 2 0 2 4 12 0 1 4 8 0",
   "1 4 47 0 1 4 51 0 1 4 1 0 3 4 2 0 2 4 5 0 2 4 1 0 1 4 42 0 2 4 8 0 1 4 115 0 2 5 121 0 1 4",
   "2 0 1 4 4 0 1 4 20271 0 1 1 1 4 10 1 1 5 153 1 16 5 363 1 18 5 64 1 2 5 54 1 40 5 13 1 3 5",
   "16 4 10 5 6 0 16 4 35 5 1 0 19 5 1 0 4 5 4 0 143 1 1 5 1 0 15 5 10 3 7 5 26 0 6 5 26 0",
   "11 5 122 0 7 5 1 0 7 5 1 0 16 5 257 0 1 5 62 0 77 5 3 0 13 5 3 0 1 5 92 0 1 4 226 0 1 4",
   "27 3 122 0 5 4 1157 0 287 1 1 5 225 1 3 4 1 1 2 4 5 1 4 4 40 1 3 4 4 1 1 4 165 1 2 4 82 1",
   "7 5 484 1 4 4 8 1 10 2 6 1 10 2 31 1 5 4 1 5 241 1 31 2 44 1 2 4 35 1 9 5 33 1 6 4 70 1",
   "11 4 49 1 4 4 122 1 1 0 1 4 54 0 15 4 11 0 20 5 10 0 1 4 2 0 2 4 10 0 3 4 49 0 4 4 2 0 2 4",
   "7 0 1 4 61 0 3 4 36 0 5 4 1 0 8 4 62 0 1 4 12 0 2 4 52 0 9 4 10 0 4 4 2 0 1 4 95 0 3 4 2 0",
   "1 4 1 0 2 4 6 0 1 4 2 0 1 4 157 0 1 4 3 0 8 4 21 0 2 4 57 0 2 4 3 0 1 4 37 0 7 4 3 0 5 4",
   "70 0 6 4 13 0 1 4 1 0 1 4 1 0 1 4 14 0 2 4 85 0 8 4 2 0 3 4 1 0 1 4 23 0 1 4 84 0 6 4 1 0",
   "1 4 4 0 2 4 1 0 2 4 238 0 4 4 6 0 2 4 1 0 2 4 27 0 2 4 85 0 8 4 2 0 1 4 1 0 2 4 31 0 13 5",
   "62 0 1 4 1 0 1 4 2 0 6 4 1 0 1 4 101 0 1 4 1 0 1 4 2 0 4 4 1 0 5 4 259 0 9 4 1 0 2 4 256 0",
   "2 4 1 0 1 4 4 0 1 4 144 0 4 4 2 0 2 4 4 0 1 4 32 0 6 4 2 0 2 4 40 0 6 4 2 0 4 4 8 0 1 4",
   "9 0 6 4 2 0 3 4 46 0 13 4 1 0 2 4 198 0 1 4 1 0 3 4 1 0 1 4 201 0 7 4 1 0 6 4 84 0 22 4",
   "2 0 7 4 1 0 2 4 1 0 2 4 122 0 6 4 3 0 1 4 1 0 2 4 1 0 7 4 1 0 1 4 72 0 2 4 3 0 1 4 1 0 1 4",
   "347 0 2 4 11 0 2 4 52 0 5 4 5 0 1 4 1 0 1 4 23 0 1 4 122 0 29 5 5198 0 1 4 6 0 15 4",
   "11464 0 12 4 3 0 3 4 2496 0 5 4 59 0 7 4 1048 0 1 4 63 0 4 4 79 0 1 5 1 0 1 4 19640 0 2 4",
   "1 0 4 5 3932 0 214 5 26 0 10 3 3 5 3 0 436 5 6 0 23 5 15 0 17 5 15 0 46 4 2 0 23 4 544 0",
   "3 4 9 0 8 5 8 4 2 0 7 4 30 0 4 4 59 0 2 5 21 0 66 5 3 4 1 5 186 0 87 5 874 0 1 5 25 0 1 5",
   "31 0 1 5 25 0 1 5 31 0 1 5 25 0 1 5 31 0 1 5 25 0 1 5 31 0 1 5 25 0 1 5 10 0 50 3 512 0",
   "55 4 4 0 50 4 8 0 1 4 14 0 1 4 22 0 5 4 1 0 15 4 1360 0 7 4 1 0 17 4 2 0 7 4 1 0 2 4 1 0",
   "5 4 100 0 1 4 160 0 7 4 375 0 1 4 61 0 4 4 15 0 1 5 492 0 4 4 254 0 2 4 243 0 1 4 2 0 1 4",
   "7 0 2 4 5 0 1 4 266 0 208 1 7 4 109 1 7 4 1445 1 2 5 270 1 44 5 4 0 100 5 12 0 15 5 2 0",
   "15 5 1 0 15 5 1 0 37 5 10 0 11 3 5 5 31 0 1 5 58 0 6 5 61 0 1 5 178 0 6 5 154 0 985 5 3 0",
   "17 5 3 0 13 5 3 0 218 5 6 0 12 5 4 0 1 5 15 0 12 5 4 0 56 5 8 0 10 5 6 0 40 5 8 0 30 5 2 0",
   "12 5 4 0 2 5 14 0 9 5 39 0 344 5 8 0 14 5 2 0 13 5 3 0 11 5 3 0 57 5 1 0 1 5 4 0 16 5 2 0",
   "12 5 4 0 10 5 7 0 147 5 1 0 92 5 10 3 1 5 1027 0 2 5 65534 0 2 5 65534 0 2 5 65534 0 2 5",
   "65534 0 2 5 65534 0 2 5 65534 0 2 5 65534 0 2 5 65534 0 2 5 65534 0 2 5 65534 0 2 5",
   "65534 0 2 5 65534 0 258 5 240 4 3600 5 61438 0 2 5 65534 0 2 5 65534 0 2 5"]

/-- The runs of characters of one direction; behind the last it is left to right. -/
def directions : List Nat :=
  Text.Runs.ofLines directionLines

end CredentialGateway.Url.Domain.Bidi
