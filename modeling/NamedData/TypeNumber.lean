/-
The registry of type numbers: names, exclude filters, records and fields.

Everything that reads or writes a number takes it from here: the encoder and the decoder of a
record, the dispatch on a packet's number, and the look-up of the kind that a number announces.
-/

namespace NamedData.TypeNumber

/-! ### Names and filters -/

/-- A name. -/
abbrev name : UInt64 := 7

/-- A component of a name or of an exclude filter. -/
abbrev component : UInt64 := 8

/-- A nonce. -/
abbrev nonce : UInt64 := 10

/-- An exclude filter. -/
abbrev exclude : UInt64 := 16

/-- The flag that only fresh data will do. -/
abbrev mustBeFresh : UInt64 := 18

/-- An open range in an exclude filter. -/
abbrev any : UInt64 := 19

/-! ### Records -/

/-- An announcement. -/
@[match_pattern] abbrev announcement : UInt64 := 200

/-- A hint. -/
@[match_pattern] abbrev hint : UInt64 := 201

/-- A vicinity request. -/
@[match_pattern] abbrev vicinity : UInt64 := 202

/-- A vicinity answer. -/
@[match_pattern] abbrev vicinityData : UInt64 := 203

/-- Replication selectors. -/
@[match_pattern] abbrev replicationSelectors : UInt64 := 204

/-- Strategy selectors. -/
@[match_pattern] abbrev strategySelectors : UInt64 := 205

/-- Selectors of the mobility strategy. -/
@[match_pattern] abbrev pdrmStrategySelectors : UInt64 := 206

/-- A hint of the older schema. -/
@[match_pattern] abbrev legacyHint : UInt64 := 207

/-- Replication selectors of the older schema. -/
@[match_pattern] abbrev legacyReplicationSelectors : UInt64 := 208

/-- The status of a face. -/
@[match_pattern] abbrev faceStatus : UInt64 := 128

/-- Content, which is what the forwarder's status is sent as. -/
@[match_pattern] abbrev content : UInt64 := 21

/-! ### Fields of packets and selectors -/

/-- The lifetime of an announcement. -/
abbrev timeout : UInt64 := 210

/-- The scope of a hint. -/
abbrev hintScope : UInt64 := 211

/-- The scope of a vicinity request or of a strategy. -/
abbrev scope : UInt64 := 212

/-- The size that an older hint carries. -/
abbrev size : UInt64 := 213

/-- A node's number. -/
abbrev nodeId : UInt64 := 214

/-- The flag that a node is interested. -/
abbrev interested : UInt64 := 215

/-- A node's availability. -/
abbrev availability : UInt64 := 216

/-! ### Fields of the mobility strategy -/

/-- The scope. -/
abbrev pdrmScope : UInt64 := 220

/-- The node's number. -/
abbrev pdrmNodeId : UInt64 := 221

/-- The node's home network. -/
abbrev pdrmHomeNetwork : UInt64 := 222

/-- The place where the node prefers to be. -/
abbrev pdrmPreferredLocation : UInt64 := 223

/-- The time it spends there. -/
abbrev pdrmTimeSpent : UInt64 := 224

/-- The place where it is. -/
abbrev pdrmCurrentPosition : UInt64 := 225

/-- Its availability. -/
abbrev pdrmAvailability : UInt64 := 226

/-- The flag that it is interested. -/
abbrev pdrmInterest : UInt64 := 227

/-! ### Fields of a face's status -/

/-- The number of the face. -/
abbrev faceId : UInt64 := 105

/-- The address at the other end. -/
abbrev uri : UInt64 := 114

/-- The address at this end. -/
abbrev localUri : UInt64 := 129

/-- The time until the face expires. -/
abbrev expirationPeriod : UInt64 := 109

/-- Whether the face is local to the host. -/
abbrev faceScope : UInt64 := 132

/-- How long the face lasts. -/
abbrev facePersistency : UInt64 := 133

/-- Whether the link has one peer or several. -/
abbrev linkType : UInt64 := 134

/-- The bytes received. -/
abbrev inBytes : UInt64 := 148

/-- The bytes sent. -/
abbrev outBytes : UInt64 := 149

/-! ### Fields of the forwarder's status -/

/-- The version of the forwarder. -/
abbrev version : UInt64 := 128

/-- When the forwarder started. -/
abbrev startTimestamp : UInt64 := 129

/-- When the status was taken. -/
abbrev currentTimestamp : UInt64 := 130

/-- Entries of the name tree. -/
abbrev nameTreeEntries : UInt64 := 131

/-- Entries of the forwarding table. -/
abbrev fibEntries : UInt64 := 132

/-- Entries of the table of pending interests. -/
abbrev pitEntries : UInt64 := 133

/-- Entries of the table of measurements. -/
abbrev measurementsEntries : UInt64 := 134

/-- Entries of the content store. -/
abbrev csEntries : UInt64 := 135

/-! ### Traffic counters -/

/-- Interests received. -/
abbrev inInterests : UInt64 := 144

/-- Data packets received. -/
abbrev inDatas : UInt64 := 145

/-- Interests sent. -/
abbrev outInterests : UInt64 := 146

/-- Data packets sent. -/
abbrev outDatas : UInt64 := 147

/-- Announcements received. -/
abbrev inAnnouncements : UInt64 := 176

/-- Hints received. -/
abbrev inHints : UInt64 := 177

/-- Vicinity requests received. -/
abbrev inVicinities : UInt64 := 178

/-- Vicinity answers received. -/
abbrev inVicinityDatas : UInt64 := 179

/-- Announcements sent. -/
abbrev outAnnouncements : UInt64 := 180

/-- Hints sent. -/
abbrev outHints : UInt64 := 181

/-- Vicinity requests sent. -/
abbrev outVicinities : UInt64 := 182

/-- Vicinity answers sent. -/
abbrev outVicinityDatas : UInt64 := 183

end NamedData.TypeNumber
