/-
How characters join to their neighbours, as data.

The values are 0 for not at all, 1 for a transparent character, 2 for one that joins
to the left, 3 for one that joins to the right and 4 for one that joins to both.
-/
import CredentialGateway.Text.Runs

namespace CredentialGateway.Url.Domain.Joiner

/-- The lengths and the values of the runs of equal joining. -/
def joiningLines : List String :=
  ["173 0 1 1 594 0 112 1 275 0 7 1 263 0 45 1 1 0 1 1 1 0 2 1 1 0 2 1 1 0 1 1 72 0 11 1 1 0",
   "1 1 3 0 1 4 1 0 4 3 1 4 1 3 1 4 1 3 5 4 4 3 13 4 1 0 7 4 1 3 2 4 21 1 14 0 2 4 1 1 3 3 1 0",
   "3 3 16 4 18 3 38 4 1 3 2 4 9 3 1 4 1 3 1 4 1 3 2 4 2 3 1 0 1 3 7 1 2 0 6 1 2 0 2 1 1 0 4 1",
   "2 3 10 0 3 4 2 0 1 4 15 0 1 1 1 3 1 1 3 4 5 3 4 4 1 3 9 4 1 3 1 4 1 3 1 4 1 3 2 4 1 3 27 1",
   "2 0 1 3 11 4 3 3 15 4 2 3 4 4 1 3 1 4 2 3 3 4 2 3 6 4 38 0 11 1 25 0 33 4 9 1 9 0 1 1 24 0",
   "4 1 1 0 9 1 1 0 3 1 1 0 5 1 18 0 1 3 5 4 2 3 1 4 1 3 10 4 1 3 1 4 3 3 3 1 4 0 1 4 1 0 4 4",
   "1 0 1 3 1 4 2 3 5 0 19 3 3 0 1 4 2 0 5 4 1 3 1 4 7 0 9 1 10 4 3 3 1 0 1 3 2 4 2 3 6 4 1 3",
   "15 4 1 0 24 1 1 0 32 1 55 0 1 1 1 0 1 1 4 0 8 1 4 0 1 1 3 0 7 1 10 0 2 1 29 0 1 1 58 0 1 1",
   "4 0 4 1 8 0 1 1 20 0 2 1 26 0 1 1 2 0 2 1 57 0 1 1 4 0 2 1 4 0 2 1 2 0 3 1 3 0 1 1 30 0",
   "2 1 3 0 1 1 11 0 2 1 57 0 1 1 4 0 5 1 1 0 2 1 4 0 1 1 20 0 2 1 22 0 6 1 1 0 1 1 58 0 1 1",
   "2 0 1 1 1 0 4 1 8 0 1 1 7 0 2 1 11 0 2 1 30 0 1 1 61 0 1 1 12 0 1 1 50 0 1 1 3 0 1 1 55 0",
   "1 1 1 0 3 1 5 0 3 1 1 0 4 1 7 0 2 1 11 0 2 1 29 0 1 1 58 0 1 1 2 0 1 1 6 0 1 1 5 0 2 1",
   "20 0 2 1 28 0 2 1 57 0 2 1 4 0 4 1 8 0 1 1 20 0 2 1 29 0 1 1 72 0 1 1 7 0 3 1 1 0 1 1 90 0",
   "1 1 2 0 7 1 12 0 8 1 98 0 1 1 2 0 9 1 11 0 7 1 73 0 2 1 27 0 1 1 1 0 1 1 1 0 1 1 55 0 14 1",
   "1 0 5 1 1 0 2 1 5 0 11 1 1 0 36 1 9 0 1 1 102 0 4 1 1 0 6 1 1 0 2 1 2 0 2 1 25 0 2 1 4 0",
   "3 1 16 0 4 1 13 0 1 1 2 0 2 1 6 0 1 1 15 0 1 1 703 0 3 1 946 0 3 1 29 0 2 1 30 0 2 1 30 0",
   "2 1 64 0 2 1 1 0 7 1 8 0 1 1 2 0 11 1 9 0 1 1 41 0 1 4 3 0 3 1 1 0 1 1 16 0 89 4 12 0 2 1",
   "34 4 1 1 1 4 117 0 3 1 4 0 2 1 9 0 1 1 6 0 3 1 219 0 2 1 2 0 1 1 58 0 1 1 1 0 7 1 1 0 1 1",
   "1 0 1 1 2 0 8 1 6 0 10 1 2 0 1 1 48 0 46 1 2 0 12 1 20 0 4 1 48 0 1 1 1 0 5 1 1 0 1 1 5 0",
   "1 1 40 0 9 1 12 0 2 1 32 0 4 1 2 0 2 1 1 0 3 1 56 0 1 1 1 0 2 1 3 0 1 1 1 0 3 1 58 0 8 1",
   "2 0 2 1 152 0 3 1 1 0 13 1 1 0 7 1 4 0 1 1 6 0 1 1 3 0 2 1 198 0 64 1 523 0 1 1 2 0 2 1",
   "26 0 5 1 49 0 5 1 5 0 6 1 96 0 33 1 3070 0 3 1 141 0 1 1 96 0 32 1 554 0 4 1 107 0 2 1",
   "30164 0 4 1 1 0 10 1 32 0 2 1 80 0 2 1 272 0 1 1 3 0 1 1 4 0 1 1 25 0 2 1 5 0 1 1 19 0",
   "50 4 1 2 81 0 2 1 26 0 18 1 13 0 1 1 38 0 8 1 25 0 11 1 46 0 3 1 48 0 1 1 2 0 4 1 2 0 2 1",
   "39 0 1 1 67 0 6 1 2 0 2 1 2 0 2 1 12 0 1 1 8 0 1 1 47 0 1 1 51 0 1 1 1 0 3 1 2 0 2 1 5 0",
   "2 1 1 0 1 1 42 0 2 1 8 0 1 1 238 0 1 1 2 0 1 1 4 0 1 1 20272 0 1 1 737 0 16 1 16 0 16 1",
   "207 0 1 1 249 0 3 1 513 0 1 1 226 0 1 1 149 0 5 1 1670 0 3 1 1 0 2 1 5 0 4 1 40 0 3 1 4 0",
   "1 1 128 0 5 4 1 3 1 0 1 3 1 0 2 3 2 0 1 2 5 3 4 4 1 2 5 4 1 3 3 4 1 3 2 0 1 3 2 1 4 0 4 4",
   "1 3 144 0 1 4 1 3 1 4 3 3 3 4 1 3 2 4 1 3 1 4 2 3 1 4 1 3 23 0 4 3 2 4 337 0 1 2 33 4 1 3",
   "1 4 4 1 65 0 5 1 317 0 2 1 21 0 1 3 2 4 1 0 2 4 50 0 6 1 48 0 3 4 1 3 17 4 1 0 11 1 3 4",
   "1 3 27 0 4 4 2 3 12 4 4 1 42 0 1 4 1 0 2 4 3 3 1 0 1 4 2 3 2 4 1 3 2 4 1 0 1 4 2 3 1 4 4 0",
   "1 3 1 4 1 2 53 0 1 1 54 0 15 1 41 0 1 1 2 0 2 1 10 0 3 1 49 0 4 1 2 0 2 1 7 0 1 1 61 0 3 1",
   "36 0 5 1 1 0 8 1 62 0 1 1 12 0 2 1 52 0 9 1 10 0 4 1 2 0 1 1 95 0 3 1 2 0 1 1 1 0 2 1 6 0",
   "1 1 2 0 1 1 157 0 1 1 3 0 8 1 21 0 2 1 57 0 2 1 3 0 1 1 37 0 7 1 3 0 5 1 70 0 6 1 13 0 1 1",
   "1 0 1 1 1 0 1 1 14 0 2 1 85 0 8 1 2 0 3 1 1 0 1 1 23 0 1 1 84 0 6 1 1 0 1 1 4 0 2 1 1 0",
   "2 1 238 0 4 1 6 0 2 1 1 0 2 1 27 0 2 1 85 0 8 1 2 0 1 1 1 0 2 1 106 0 1 1 1 0 1 1 2 0 6 1",
   "1 0 1 1 101 0 1 1 1 0 1 1 2 0 4 1 1 0 5 1 259 0 9 1 1 0 2 1 256 0 2 1 1 0 1 1 4 0 1 1",
   "144 0 4 1 2 0 2 1 4 0 1 1 32 0 10 1 40 0 6 1 2 0 4 1 8 0 1 1 9 0 6 1 2 0 3 1 46 0 13 1 1 0",
   "2 1 198 0 1 1 1 0 3 1 1 0 1 1 201 0 7 1 1 0 6 1 1 0 1 1 82 0 22 1 2 0 7 1 1 0 2 1 1 0 2 1",
   "122 0 6 1 3 0 1 1 1 0 2 1 1 0 7 1 1 0 1 1 72 0 2 1 3 0 1 1 1 0 1 1 347 0 2 1 11 0 2 1 52 0",
   "5 1 5 0 1 1 1 0 1 1 23 0 1 1 5333 0 17 1 6 0 15 1 11464 0 12 1 3 0 3 1 2496 0 5 1 59 0 7 1",
   "1048 0 1 1 63 0 4 1 81 0 1 1 19640 0 2 1 1 0 4 1 4700 0 46 1 2 0 23 1 544 0 3 1 9 0 16 1",
   "2 0 7 1 30 0 4 1 148 0 3 1 1979 0 55 1 4 0 50 1 8 0 1 1 14 0 1 1 22 0 5 1 1 0 15 1 1360 0",
   "7 1 1 0 17 1 2 0 7 1 1 0 2 1 1 0 5 1 100 0 1 1 160 0 7 1 375 0 1 1 61 0 4 1 508 0 4 1",
   "254 0 2 1 243 0 1 1 2 0 1 1 7 0 2 1 5 0 1 1 474 0 7 1 41 0 68 4 8 1 792245 0 1 1 30 0 96 1",
   "128 0 240 1"]

/-- The runs of characters that join alike; behind the last they do not join. -/
def joinings : List Nat :=
  Text.Runs.ofLines joiningLines

end CredentialGateway.Url.Domain.Joiner
